import BindingIndex.Console.Table
import BindingIndex.Proofs.Console.Enclosed

/-!
# Tables that are shown

A table can only fail over the markup of its title and of its cells: however it is laid out, it asks
of each text no more than that its styles can be looked up (`exists_rowLines_eq_ok`). A text without
an opening bracket names no style at all (`shows_of_no_bracket`).
-/

namespace BindingIndex.Console

open StyledText (StylesIn)
open Markup (Known)

/-- The markup can be read and names no style that cannot be looked up. -/
def Markup.Shows (markup : String) : Prop :=
  ∃ t, Markup.read markup.toList = .ok t ∧ StylesIn Known t

theorem Markup.shows_of_no_bracket {markup : String} (h : '[' ∉ markup.toList) :
    Markup.Shows markup := by
  obtain ⟨texts, hpieces⟩ := piecesFrom_no_bracket h 0 0
  have hnil : AllKnown [] := fun t ht => nomatch ht
  obtain ⟨shown, spans, hread, hspans⟩ := readFrom_all (onlyOpen_texts texts).withEmoji hnil 0
  refine ⟨⟨shown, spans.reverse.mergeSort fun s t => s.start ≤ t.start⟩, ?_, fun s hs => ?_⟩
  · rw [Markup.read, pieces, hpieces, hread]
    rfl
  · exact hspans s (List.mem_reverse.1 (List.mem_mergeSort.1 hs))

namespace Table

theorem exists_rowLines_eq_ok {texts : List StyledText} (h : ∀ u ∈ texts, StylesIn Known u)
    (side : Char) (columns : List Column) (ws : List Nat) :
    ∃ lines, rowLines side columns ws texts = .ok lines := by
  -- a cell can only fail over the styles of its text
  have hcells : ∀ x ∈ columns.zip (ws.zip texts), ∃ lines,
      cellLines x.1.align x.2.1 x.2.2 = .ok lines := by
    rintro ⟨c, w, u⟩ hx
    have hu : u ∈ texts := (List.of_mem_zip (List.of_mem_zip hx).2).2
    exact ⟨_, by rw [cellLines, setText_eq_ok (h u hu)]; rfl⟩
  obtain ⟨cells, hmap, -⟩ := exists_mapM_eq_ok hcells
  refine ⟨(List.range ((cells.map List.length).foldl max 0)).map (rowLine side ws cells), ?_⟩
  unfold rowLines
  show (do
    let cells ← (columns.zip (ws.zip texts)).mapM fun x : Column × Nat × StyledText =>
      cellLines x.1.align x.2.1 x.2.2
    pure ((List.range ((cells.map List.length).foldl max 0)).map (rowLine side ws cells))) = _
  rw [hmap]
  rfl

/-- **A table is shown** if its title and all its cells are. -/
theorem exists_render_eq_ok {t : Table} (htitle : Markup.Shows t.title)
    (hrows : ∀ row ∈ t.rows, ∀ cell ∈ row, Markup.Shows cell) : ∃ shown, t.render = .ok shown := by
  have hread : ∀ row ∈ t.rows, ∃ texts : List StyledText,
      row.mapM (fun s : String => Markup.read s.toList) = .ok texts ∧
        ∀ u ∈ texts, StylesIn Known u := by
    intro row hrow
    have hcell : ∀ cell ∈ row, ∃ u, Markup.read cell.toList = .ok u := fun cell hc =>
      (hrows row hrow cell hc).imp fun u hu => hu.1
    obtain ⟨texts, hmap, hof⟩ := exists_mapM_eq_ok hcell
    refine ⟨texts, hmap, fun u hu => ?_⟩
    obtain ⟨cell, hc, hcu⟩ := hof u hu
    obtain ⟨u', hu', hstyles⟩ := hrows row hrow cell hc
    rw [hcu] at hu'
    cases hu'
    exact hstyles
  obtain ⟨rows, hmap, hof⟩ :=
    exists_mapM_eq_ok fun row hrow => (hread row hrow).imp fun u hu => hu.1
  have hstyles : ∀ texts ∈ rows, ∀ u ∈ texts, StylesIn Known u := by
    intro texts htexts
    obtain ⟨row, hrow, heq⟩ := hof texts htexts
    obtain ⟨texts', heq', hall⟩ := hread row hrow
    rw [heq] at heq'
    cases heq'
    exact hall
  obtain ⟨title, hreadTitle, htitle⟩ := htitle
  have hplain : ∀ u ∈ t.columns.map fun c => StyledText.plain c.head.toList, StylesIn Known u := by
    intro u hu
    obtain ⟨c, -, rfl⟩ := List.mem_map.1 hu
    exact fun s hs => nomatch hs
  obtain ⟨head, hhead⟩ :=
    exists_rowLines_eq_ok hplain headSide t.columns (fitted (natural rows t.columns))
  obtain ⟨body, hbody, -⟩ := exists_mapM_eq_ok fun texts htexts =>
    exists_rowLines_eq_ok (hstyles texts htexts) side t.columns (fitted (natural rows t.columns))
  unfold render
  simp only [hmap, hreadTitle, setText_eq_ok htitle, hhead, hbody, bind, Except.bind]
  exact ⟨_, rfl⟩

end Table

end BindingIndex.Console
