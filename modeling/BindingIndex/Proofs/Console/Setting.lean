import BindingIndex.Console.Print
import BindingIndex.Proofs.Text.Columns
import BindingIndex.Proofs.Text.Splitting
import Mathlib.Data.List.Basic

/-!
# Paragraphs without a loss

A text is cut into its lines, a line where the next word does not fit, and what is still too wide is
shortened. In a text without tabs in which the cells of the characters add up, only white space is
lost on the way: while a line is filled, everything but the white space at its end fits
(`Filling.Holds`), so shortening it and cropping its parts takes nothing else away. That is
`StyledText.setsInFull`. Where a joiner is at work it may be otherwise: the parts of a line count
for themselves, and behind a joiner that ends a part the next character takes cells that the line
had not reckoned with.
-/

namespace BindingIndex.Console

open Text (withoutBlanks trimRight withoutBlanks_trimRight withoutBlanks_append Cells.Plain
  Cells.sum)

namespace Wrap

/-! ## Breaking a line -/

/-- The lines that are being filled hold a text, and each of them fits but for the white space at
its end. -/
structure Filling.Holds (limit : Nat) (s : List Char) (f : Filling) : Prop where
  text : (f.line :: f.done).reverse.flatten = s
  used : f.used = Cells.sum f.line
  fits : ∀ l ∈ f.line :: f.done, Cells.sum (trimRight l) ≤ limit

namespace Filling

variable {limit : Nat} {s : List Char} {f : Filling}

theorem Holds.start (h : f.Holds limit s) {piece : List Char} (hplain : Cells.Plain piece)
    (hfit : Cells.sum (trimRight piece) ≤ limit) : (f.start piece).Holds limit (s ++ piece) := by
  obtain ⟨htext, -, hfits⟩ := h
  refine ⟨?_, Text.Cells.width_eq_sum hplain, List.forall_mem_cons.2 ⟨hfit, ?_⟩⟩
  · unfold Filling.start
    dsimp only
    split
    · rename_i hnone
      rw [hnone.1, hnone.2] at htext
      simp [← htext]
    · simp [← htext]
  · unfold Filling.start
    dsimp only
    split
    · exact fun l hl => nomatch hl
    · exact hfits

theorem Holds.foldl_start (h : f.Holds limit s) {pieces : List (List Char)}
    (hplain : Cells.Plain pieces.flatten) (hfit : ∀ p ∈ pieces, Cells.sum p ≤ limit) :
    (pieces.foldl Filling.start f).Holds limit (s ++ pieces.flatten) := by
  induction pieces generalizing f s with
  | nil => simpa using h
  | cons p pieces ih =>
    obtain ⟨hp, hpieces⟩ := List.forall_mem_append.1 hplain
    obtain ⟨hle, hfit⟩ := List.forall_mem_cons.1 hfit
    have hstart := h.start hp (Nat.le_trans (Text.Cells.sum_trimRight_le p) hle)
    simpa using ih hstart hpieces hfit

/-- **Setting a word** keeps what the lines hold, whether it fits, is cut up or starts a line. -/
theorem Holds.place (h : f.Holds limit s) (hlimit : 2 ≤ limit) {word : List Char}
    (hplain : Cells.Plain word) : (f.place limit .fold word).Holds limit (s ++ word) := by
  have htrim : Cells.Plain (trimRight word) := by
    obtain ⟨after, -, hword⟩ := Text.exists_trimRight word
    rw [hword] at hplain
    exact (List.forall_mem_append.1 hplain).1
  unfold Filling.place
  simp only [Text.Cells.width_eq_sum hplain, Text.Cells.width_eq_sum htrim, and_true]
  split
  · rename_i hfit
    obtain ⟨htext, hused, hfits⟩ := h
    obtain ⟨hline, hdone⟩ := List.forall_mem_cons.1 hfits
    refine ⟨by simp [← htext], by simp [hused], List.forall_mem_cons.2 ⟨?_, hdone⟩⟩
    exact Text.Cells.sum_trimRight_append_le hline (by omega)
  · split
    · rename_i hwide
      have hle := Text.Cells.sum_trimRight_le word
      obtain ⟨hflatten, hchop⟩ := Text.Cells.chop_spec hplain hlimit (by omega)
      have hpieces : Cells.Plain (Text.Cells.chop limit word).flatten := by rwa [hflatten]
      have hall := h.foldl_start hpieces hchop
      rwa [hflatten] at hall
    · exact h.start hplain (by omega)

theorem Holds.foldl_place (h : f.Holds limit s) (hlimit : 2 ≤ limit) {words : List (List Char)}
    (hplain : Cells.Plain words.flatten) :
    (words.foldl (Filling.place limit .fold) f).Holds limit (s ++ words.flatten) := by
  induction words generalizing f s with
  | nil => simpa using h
  | cons word words ih =>
    obtain ⟨hword, hwords⟩ := List.forall_mem_append.1 hplain
    simpa using ih (h.place hlimit hword) hwords

end Filling

/-- **Breaking a line** loses nothing, and what is more than white space at the end fits. -/
theorem broken_spec {limit : Nat} (hlimit : 2 ≤ limit) {s : List Char} (h : Cells.Plain s) :
    (broken limit .fold s).flatten = s ∧
      ∀ l ∈ broken limit .fold s, Cells.sum (trimRight l) ≤ limit := by
  have hempty : Filling.Holds limit [] ⟨[], [], 0⟩ := by
    refine ⟨rfl, rfl, fun l hl => ?_⟩
    rw [List.mem_singleton.1 hl]
    exact Nat.zero_le _
  have hwords : Cells.Plain (words s).flatten := by rwa [flatten_words]
  obtain ⟨htext, -, hfits⟩ := hempty.foldl_place hlimit hwords
  rw [flatten_words] at htext
  exact ⟨htext, fun l hl => hfits l (List.mem_reverse.1 hl)⟩

end Wrap

/-! ## Cutting -/

namespace StyledText

theorem map_text_slices {t : StyledText} {sep : List Char} {pieces : List (List Char)} {start : Nat}
    (h : t.text.drop start = sep.intercalate pieces) :
    (t.slices sep.length start (pieces.map List.length)).map StyledText.text = pieces := by
  induction pieces generalizing start with
  | nil => rfl
  | cons p pieces ih =>
    rw [List.map_cons, slices, List.map_cons]
    cases pieces with
    | nil =>
      rw [List.intercalate_singleton] at h
      simp [slice, slices, h]
    | cons q pieces =>
      rw [List.intercalate_cons_cons] at h
      have hrest : t.text.drop (start + p.length + sep.length) = sep.intercalate (q :: pieces) := by
        rw [Nat.add_assoc, ← List.drop_drop, h, List.append_assoc, ← List.drop_drop]
        simp
      rw [ih hrest]
      simp [slice, h]

/-- Cut where its pieces are joined, a text gives these pieces. -/
theorem map_text_cut {t : StyledText} (sep : List Char) {pieces : List (List Char)}
    (hne : pieces ≠ []) (h : t.text = sep.intercalate pieces) :
    (t.cut sep.length (pieces.map List.length)).map StyledText.text = pieces := by
  cases pieces with
  | nil => exact absurd rfl hne
  | cons p pieces =>
    cases pieces with
    | nil =>
      rw [List.intercalate_singleton] at h
      simp [cut, h]
    | cons q pieces => exact map_text_slices h

theorem intercalate_no_gap (pieces : List (List Char)) :
    [].intercalate pieces = pieces.flatten := by
  induction pieces with
  | nil => rfl
  | cons p pieces ih =>
    cases pieces with
    | nil => simp
    | cons q pieces => rw [List.intercalate_cons_cons, ih]; simp

theorem map_text_lines (t : StyledText) :
    t.lines.map StyledText.text = t.text.splitOn '\n' :=
  map_text_cut ['\n'] (List.splitOn_ne_nil _ _) (List.intercalate_splitOn _).symm

theorem map_text_broken (t : StyledText) {limit : Nat} (hlimit : 2 ≤ limit)
    (h : Cells.Plain t.text) :
    (t.cut 0 ((Wrap.broken limit .fold t.text).map List.length)).map StyledText.text =
      Wrap.broken limit .fold t.text := by
  have hne : Wrap.broken limit .fold t.text ≠ [] := by simp [Wrap.broken]
  refine map_text_cut [] hne ?_
  rw [intercalate_no_gap]
  exact (Wrap.broken_spec hlimit h).1.symm

end StyledText

/-! ## Setting lines -/

theorem trimRight_take {s : List Char} {n : Nat} (h : (trimRight s).length ≤ n) :
    trimRight (s.take n) = trimRight s := by
  obtain ⟨after, hblank, hs⟩ := Text.exists_trimRight s
  have htake : s.take n = trimRight s ++ after.take (n - (trimRight s).length) := by
    conv => lhs; rw [hs, List.take_append, List.take_of_length_le h]
  have hself : trimRight s = trimRight (trimRight s) := by
    conv => lhs; rw [hs, Text.trimRight_append hblank]
  rw [htake, Text.trimRight_append fun c hc => hblank c (List.mem_of_mem_take hc), ← hself]

/-- A line that is set: it fits, and differs from a text in white space only. -/
structure IsSet (limit : Nat) (s : List Char) (t : StyledText) : Prop where
  plain : Cells.Plain t.text
  fits : Cells.sum t.text ≤ limit
  kept : withoutBlanks t.text = withoutBlanks s

theorem isSet_shorten {limit : Nat} {t : StyledText} (h : Cells.Plain t.text)
    (hfit : Cells.sum (trimRight t.text) ≤ limit) :
    IsSet limit t.text (Wrap.shorten limit .fold t) := by
  have hwhole := Text.Cells.isWhole_graphemes h
  unfold Wrap.shorten
  rw [Text.Cells.width_eq_sum h]
  split
  · rename_i hle
    exact ⟨h, hle, rfl⟩
  · rename_i hwide
    have hcut : (t.withText (Text.Cells.resize limit t.text)).text =
        Text.Cells.takeFrom limit (Text.Cells.graphemes t.text) := by
      show Text.Cells.resize limit t.text = _
      rw [Text.Cells.resize, Text.Cells.width_eq_sum h, if_neg hwide]
    refine ⟨?_, ?_, ?_⟩
    · rw [hcut]
      intro c hc
      rcases Text.Cells.mem_takeFrom hc with rfl | hc
      · decide
      · rw [Text.Cells.text_graphemes] at hc
        exact h c hc
    · rw [hcut]
      exact Text.Cells.sum_takeFrom_le hwhole _
    · rw [hcut, Text.Cells.withoutBlanks_takeFrom hwhole (by rwa [Text.Cells.text_graphemes]),
        Text.Cells.text_graphemes]

theorem isSet_aligned {limit : Nat} {t : StyledText} (h : Cells.Plain t.text)
    (hfit : Cells.sum (trimRight t.text) ≤ limit) :
    IsSet limit t.text (Wrap.aligned limit .fold .free (Wrap.dropExcess limit t)) := by
  have hlength : (trimRight t.text).length ≤ t.text.length := by
    obtain ⟨after, -, hs⟩ := Text.exists_trimRight t.text
    conv => rhs; rw [hs, List.length_append]
    omega
  have htrim : trimRight (Wrap.dropExcess limit t).text = trimRight t.text := by
    refine trimRight_take ?_
    omega
  have hdrop : Cells.Plain (Wrap.dropExcess limit t).text := fun c hc =>
    h c (List.mem_of_mem_take hc)
  have hdropFit : Cells.sum (trimRight (Wrap.dropExcess limit t).text) ≤ limit := by rwa [htrim]
  obtain ⟨hplain, hfits, hkept⟩ := isSet_shorten hdrop hdropFit
  refine ⟨hplain, hfits, hkept.trans ?_⟩
  rw [← withoutBlanks_trimRight, htrim, withoutBlanks_trimRight]

theorem expandTabs_of_not_mem {t : StyledText} (h : '\t' ∉ t.text) : t.expandTabs = t := by
  rw [StyledText.expandTabs, if_neg (by simpa using h)]

/-! ## On the screen -/

theorem cells_eq_sum {line : Line} (h : Cells.Plain line.flatten) :
    cells line = Cells.sum line.flatten := by
  have hsum : (line.map Text.Cells.width).sum = Cells.sum line.flatten := by
    induction line with
    | nil => rfl
    | cons part line ih =>
      obtain ⟨hpart, hline⟩ := List.forall_mem_append.1 h
      simp [Text.Cells.width_eq_sum hpart, ih hline]
  rw [cells, ← List.sum_eq_foldl, hsum]

theorem flatten_cropLine_parts {limit : Nat} {t : StyledText} (h : Cells.Plain t.text)
    (hfit : Cells.sum t.text ≤ limit) : (cropLine limit t.parts).flatten = t.text := by
  have hparts : Cells.Plain t.parts.flatten := by rwa [StyledText.flatten_parts]
  have hcells := cells_eq_sum hparts
  rw [StyledText.flatten_parts] at hcells
  rw [cropLine, if_neg (by omega), StyledText.flatten_parts]

theorem withoutBlanks_screen {ts : List StyledText} (hplain : ∀ t ∈ ts, Cells.Plain t.text)
    (hfits : ∀ t ∈ ts, Cells.sum t.text ≤ width) :
    withoutBlanks (screen (ts.map StyledText.parts)) =
      ts.flatMap fun t => withoutBlanks t.text := by
  induction ts with
  | nil => rfl
  | cons t ts ih =>
    obtain ⟨hp, hplain⟩ := List.forall_mem_cons.1 hplain
    obtain ⟨hf, hfits⟩ := List.forall_mem_cons.1 hfits
    have hfeed : withoutBlanks ['\n'] = [] := by decide
    have hscreen : screen ((t :: ts).map StyledText.parts) =
        (cropLine width t.parts).flatten ++ ['\n'] ++ screen (ts.map StyledText.parts) := rfl
    rw [hscreen, flatten_cropLine_parts hp hf, withoutBlanks_append, withoutBlanks_append, hfeed,
      ih hplain hfits, List.flatMap_cons, List.append_nil]

theorem withoutBlanks_intercalate (sep : List Char) (hsep : withoutBlanks sep = [])
    (pieces : List (List Char)) :
    withoutBlanks (sep.intercalate pieces) = pieces.flatMap withoutBlanks := by
  induction pieces with
  | nil => rfl
  | cons p pieces ih =>
    cases pieces with
    | nil => simp
    | cons q pieces => rw [List.intercalate_cons_cons]; simp [hsep, ih]

namespace StyledText

/-- Set in lines, the text shows all its characters but for white space. -/
def SetsInFull (t : StyledText) : Prop :=
  withoutBlanks (screen ((Wrap.lines width .fold .free t).map StyledText.parts)) =
    withoutBlanks t.text

def setLine (limit : Nat) (t : StyledText) : List StyledText :=
  (t.cut 0 ((Wrap.broken limit .fold t.text).map List.length)).map fun l =>
    Wrap.aligned limit .fold .free (Wrap.dropExcess limit l)

theorem lines_eq_flatMap_setLine (limit : Nat) (t : StyledText) :
    Wrap.lines limit .fold .free t = t.lines.flatMap fun l => setLine limit l.expandTabs := rfl

/-- Each of these lines fits, and all together show what the line shows. -/
theorem setLine_spec {limit : Nat} (hlimit : 2 ≤ limit) {t : StyledText} (h : Cells.Plain t.text) :
    (∀ l ∈ setLine limit t, Cells.Plain l.text ∧ Cells.sum l.text ≤ limit) ∧
      ((setLine limit t).flatMap fun l => withoutBlanks l.text) = withoutBlanks t.text := by
  obtain ⟨hflatten, hfits⟩ := Wrap.broken_spec hlimit h
  have hcut := t.map_text_broken hlimit h
  unfold setLine
  generalize t.cut 0 ((Wrap.broken limit .fold t.text).map List.length) = pieces at hcut ⊢
  have hset : ∀ l ∈ pieces,
      IsSet limit l.text (Wrap.aligned limit .fold .free (Wrap.dropExcess limit l)) := by
    intro l hl
    have hmem : l.text ∈ Wrap.broken limit .fold t.text := by
      rw [← hcut]
      exact List.mem_map_of_mem hl
    refine isSet_aligned (fun c hc => h c ?_) (hfits _ hmem)
    rw [← hflatten]
    exact List.mem_flatten_of_mem hmem hc
  refine ⟨fun l hl => ?_, ?_⟩
  · obtain ⟨piece, hpiece, rfl⟩ := List.mem_map.1 hl
    exact ⟨(hset piece hpiece).plain, (hset piece hpiece).fits⟩
  · rw [List.flatMap_map, List.flatMap_congr fun l hl => (hset l hl).kept,
      ← List.flatMap_map (f := StyledText.text), hcut, List.flatMap_def,
      ← Text.withoutBlanks_flatten, hflatten]

/-- **A text without tabs, joiners and selectors is set in full**, whatever its spans are. -/
theorem setsInFull {t : StyledText} (h : Cells.Plain t.text) (htabs : '\t' ∉ t.text) :
    t.SetsInFull := by
  have hlines := t.map_text_lines
  have hline : ∀ l ∈ t.lines, Cells.Plain l.text ∧ l.expandTabs = l := by
    intro l hl
    have hmem : l.text ∈ t.text.splitOn '\n' := by
      rw [← hlines]
      exact List.mem_map_of_mem hl
    have hsub := Text.mem_of_mem_splitOn hmem
    exact ⟨fun c hc => h c (hsub c hc), expandTabs_of_not_mem fun hc => htabs (hsub _ hc)⟩
  have hset : ∀ l ∈ t.lines,
      (∀ l' ∈ setLine width l.expandTabs, Cells.Plain l'.text ∧ Cells.sum l'.text ≤ width) ∧
        ((setLine width l.expandTabs).flatMap fun l' => withoutBlanks l'.text) =
          withoutBlanks l.text := by
    intro l hl
    rw [(hline l hl).2]
    exact setLine_spec (by decide) (hline l hl).1
  have hall : ∀ l ∈ Wrap.lines width .fold .free t,
      Cells.Plain l.text ∧ Cells.sum l.text ≤ width := by
    intro l hl
    rw [lines_eq_flatMap_setLine] at hl
    obtain ⟨line, hmem, hl⟩ := List.mem_flatMap.1 hl
    exact (hset line hmem).1 l hl
  rw [SetsInFull, withoutBlanks_screen (fun l hl => (hall l hl).1) fun l hl => (hall l hl).2,
    lines_eq_flatMap_setLine, List.flatMap_assoc, List.flatMap_congr fun l hl => (hset l hl).2,
    ← List.flatMap_map (f := StyledText.text), hlines,
    ← withoutBlanks_intercalate ['\n'] (by decide), List.intercalate_splitOn]

end StyledText

end BindingIndex.Console
