import BindingIndex.Proofs.PropertyList.RoundTrip
import BindingIndex.Text.Cells
import Mathlib.Algebra.Ring.Nat
import Mathlib.Data.List.TakeWhile

/-!
# Texts cut to their cells

In a text without joiners and selectors every character has its cells whatever is around it
(`Cells.Plain`, `Cells.width_eq_sum`), and what is displayed as one unit is a character with those
behind it that take no cell (`Cells.Grapheme.IsWhole`). So a text is cut into lines of some cells
without a loss (`Cells.flatten_chop`). Cut to a number of cells that all but the white space at its
end has, it only loses white space: `Cells.withoutBlanks_takeFrom`.
-/

namespace BindingIndex.Text

/-! ## White space left out -/

/-- A text with all its white space left out. -/
def withoutBlanks (s : List Char) : List Char := s.filter (!isBlank ·)

@[simp] theorem withoutBlanks_append (a b : List Char) :
    withoutBlanks (a ++ b) = withoutBlanks a ++ withoutBlanks b := List.filter_append a b

theorem withoutBlanks_eq_nil {s : List Char} :
    withoutBlanks s = [] ↔ ∀ c ∈ s, isBlank c = true := by
  simp [withoutBlanks]

theorem withoutBlanks_flatten (lines : List (List Char)) :
    withoutBlanks lines.flatten = (lines.map withoutBlanks).flatten := List.filter_flatten

@[simp] theorem withoutBlanks_trimRight (s : List Char) :
    withoutBlanks (trimRight s) = withoutBlanks s := by
  obtain ⟨after, hblank, hs⟩ := exists_trimRight s
  have hafter := withoutBlanks_eq_nil.2 hblank
  conv => rhs; rw [hs, withoutBlanks_append, hafter, List.append_nil]

theorem trimRight_append_of_ne_nil {b : List Char} (h : withoutBlanks b ≠ []) (a : List Char) :
    trimRight (a ++ b) = a ++ trimRight b := by
  have hne : (b.reverse.dropWhile isBlank).isEmpty = false := by
    rw [Bool.eq_false_iff]
    intro hempty
    refine h (withoutBlanks_eq_nil.2 fun c hc => ?_)
    rw [List.isEmpty_iff, List.dropWhile_eq_nil_iff] at hempty
    exact hempty c (List.mem_reverse.2 hc)
  rw [trimRight, trimRight, trimLeft, trimLeft, List.reverse_append, List.dropWhile_append, hne]
  simp

theorem exists_trimRight_cons {c : Char} {s : List Char} (h : withoutBlanks (c :: s) ≠ []) :
    ∃ s', trimRight (c :: s) = c :: s' := by
  by_cases hs : withoutBlanks s = []
  · refine trimRight_cons (Bool.eq_false_iff.2 fun hc => h ?_) s
    exact withoutBlanks_eq_nil.2 (List.forall_mem_cons.2 ⟨hc, withoutBlanks_eq_nil.1 hs⟩)
  · exact ⟨trimRight s, trimRight_append_of_ne_nil hs [c]⟩

namespace Cells

/-! ## Cells add up -/

/-- No character of the text changes the cells of those around it. -/
def Plain (s : List Char) : Prop := ∀ c ∈ s, c ≠ joiner ∧ c ≠ selector

instance (s : List Char) : Decidable (Plain s) := List.decidableBAll _ s

/-- The cells of the characters of a text, each taken by itself. -/
def sum (s : List Char) : Nat := (s.map ofChar).sum

@[simp] theorem sum_nil : sum [] = 0 := rfl

@[simp] theorem sum_cons (c : Char) (s : List Char) : sum (c :: s) = ofChar c + sum s := by
  simp [sum]

@[simp] theorem sum_append (a b : List Char) : sum (a ++ b) = sum a + sum b := by
  simp [sum]

theorem sum_eq_zero {s : List Char} (h : ∀ c ∈ s, ofChar c = 0) : sum s = 0 := by
  induction s with
  | nil => rfl
  | cons c s ih =>
    rw [sum_cons, h c (.head _), ih fun d hd => h d (.tail _ hd)]

theorem ofChar_le (c : Char) : ofChar c ≤ 2 := by
  unfold ofChar
  dsimp only
  repeat' split
  all_goals omega

theorem widthFrom_eq_sum {s : List Char} (h : Plain s) (last : Option Char) :
    widthFrom last s = sum s := by
  induction s generalizing last with
  | nil => rfl
  | cons c s ih =>
    obtain ⟨hjoiner, hselector⟩ := h c (.head _)
    have hs : ∀ last, widthFrom last s = sum s := ih fun d hd => h d (.tail _ hd)
    rw [widthFrom.eq_def]
    dsimp only
    rw [if_neg hjoiner, if_neg hselector, sum_cons]
    split <;> rw [hs]
    omega

/-- **The cells of a plain text** are those of its characters. -/
theorem width_eq_sum {s : List Char} (h : Plain s) : width s = sum s := widthFrom_eq_sum h none

theorem sum_trimRight_le (s : List Char) : sum (trimRight s) ≤ sum s := by
  obtain ⟨after, -, hs⟩ := exists_trimRight s
  conv => rhs; rw [hs]
  simp

theorem sum_trimRight_append_le {a b : List Char} {n : Nat} (ha : sum (trimRight a) ≤ n)
    (hb : sum a + sum (trimRight b) ≤ n) : sum (trimRight (a ++ b)) ≤ n := by
  by_cases hblank : withoutBlanks b = []
  · rwa [trimRight_append (withoutBlanks_eq_nil.1 hblank)]
  · rwa [trimRight_append_of_ne_nil hblank, sum_append]

/-! ## Graphemes -/

def text (gs : List Grapheme) : List Char := gs.flatMap Grapheme.chars

@[simp] theorem text_nil : text [] = [] := rfl

@[simp] theorem text_cons (g : Grapheme) (gs : List Grapheme) :
    text (g :: gs) = g.chars ++ text gs := rfl

theorem text_reverse_extend (chars : List Char) (n : Nat) (made : List Grapheme) :
    text (extend chars n made).reverse = text made.reverse ++ chars := by
  cases made <;> simp [extend, text]

theorem text_reverse_graphemesFrom (last : Option Char) (made : List Grapheme) (s : List Char) :
    text (graphemesFrom last made s).reverse = text made.reverse ++ s := by
  fun_induction graphemesFrom last made s with
  | case1 => simp
  | case2 last s ih => simpa [text] using ih
  | case5 last s hne ih => simpa [text] using ih
  | case9 last made c s _ _ n _ ih => simpa [text] using ih
  | _ => simp_all [text_reverse_extend]

/-- **Nothing is lost** where a text is cut into graphemes. -/
@[simp] theorem text_graphemes (s : List Char) : text (graphemes s) = s := by
  simp [graphemes, text_reverse_graphemesFrom]

/-- The grapheme is a character with others behind it that take no cell. -/
def Grapheme.IsWhole (g : Grapheme) : Prop :=
  ∃ c marks, g.chars = c :: marks ∧ g.cells = ofChar c ∧ ∀ m ∈ marks, ofChar m = 0

theorem Grapheme.IsWhole.sum_chars {g : Grapheme} (h : g.IsWhole) : sum g.chars = g.cells := by
  obtain ⟨c, marks, hchars, hcells, hmarks⟩ := h
  rw [hchars, hcells, sum_cons, sum_eq_zero hmarks, Nat.add_zero]

theorem Grapheme.IsWhole.cells_le {g : Grapheme} (h : g.IsWhole) : g.cells ≤ 2 := by
  obtain ⟨c, -, -, hcells, -⟩ := h
  rw [hcells]
  exact ofChar_le c

theorem isWhole_single (c : Char) : Grapheme.IsWhole ⟨[c], ofChar c⟩ :=
  ⟨c, [], rfl, rfl, fun _ hm => nomatch hm⟩

theorem isWhole_extend {made : List Grapheme} (h : ∀ g ∈ made, g.IsWhole) {c : Char}
    (hc : ofChar c = 0) : ∀ g ∈ extend [c] 0 made, g.IsWhole := by
  intro g hg
  cases made with
  | nil =>
    obtain rfl := List.mem_singleton.1 hg
    rw [← hc]
    exact isWhole_single c
  | cons first made =>
    rcases List.mem_cons.1 hg with rfl | hg
    · obtain ⟨d, marks, hchars, hcells, hmarks⟩ := h first (.head _)
      refine ⟨d, marks ++ [c], by simp [hchars], hcells, fun m hm => ?_⟩
      rcases List.mem_append.1 hm with hm | hm
      · exact hmarks m hm
      · rw [List.mem_singleton.1 hm, hc]
    · exact h g (.tail _ hg)

theorem isWhole_graphemesFrom {s : List Char} (hs : Plain s) {made : List Grapheme}
    (h : ∀ g ∈ made, g.IsWhole) (last : Option Char) :
    ∀ g ∈ graphemesFrom last made s, g.IsWhole := by
  induction s generalizing last made with
  | nil => exact h
  | cons c s ih =>
    obtain ⟨hjoiner, hselector⟩ := hs c (.head _)
    rw [graphemesFrom.eq_def]
    dsimp only
    rw [if_neg hjoiner, if_neg hselector]
    split
    · rename_i hc
      exact ih (fun d hd => hs d (.tail _ hd)) (isWhole_extend h hc) _
    · exact ih (fun d hd => hs d (.tail _ hd))
        (List.forall_mem_cons.2 ⟨isWhole_single c, h⟩) _

theorem isWhole_graphemes {s : List Char} (h : Plain s) : ∀ g ∈ graphemes s, g.IsWhole := by
  have hnil : ∀ g ∈ ([] : List Grapheme), g.IsWhole := fun _ hg => nomatch hg
  exact fun g hg => isWhole_graphemesFrom h hnil none g (List.mem_reverse.1 hg)

theorem sum_text {gs : List Grapheme} (h : ∀ g ∈ gs, g.IsWhole) :
    sum (text gs) = (gs.map Grapheme.cells).sum := by
  induction gs with
  | nil => rfl
  | cons g gs ih =>
    rw [text_cons, sum_append, (h g (.head _)).sum_chars, ih fun g hg => h g (.tail _ hg)]
    simp

/-! ## Lines of some cells -/

section Chop

variable {limit used : Nat} {line : List Char} {gs : List Grapheme}

/-- A line is only dropped if it takes no cells, and only the last one might. -/
theorem flatten_chopFrom (hcells : ∀ g ∈ gs, g.cells ≤ limit) (hused : used ≤ limit)
    (hsome : 0 < used + (gs.map Grapheme.cells).sum) :
    (chopFrom limit used line gs).flatten = line ++ text gs := by
  induction gs generalizing used line with
  | nil =>
    have hne : used ≠ 0 := by simpa [Nat.pos_iff_ne_zero] using hsome
    simp [chopFrom, hne]
  | cons g gs ih =>
    obtain ⟨hg, hgs⟩ := List.forall_mem_cons.1 hcells
    rw [List.map_cons, List.sum_cons] at hsome
    rw [chopFrom]
    split
    · rw [List.flatten_cons, ih hgs hg (by omega), text_cons]
    · rw [ih hgs (by omega) (by omega), text_cons, List.append_assoc]

theorem sum_le_of_mem_chopFrom (hwhole : ∀ g ∈ gs, g.IsWhole) (hcells : ∀ g ∈ gs, g.cells ≤ limit)
    (hline : sum line = used) (hused : used ≤ limit) :
    ∀ l ∈ chopFrom limit used line gs, sum l ≤ limit := by
  induction gs generalizing used line with
  | nil =>
    intro l hl
    rw [chopFrom] at hl
    split at hl
    · cases hl
    · rw [List.mem_singleton.1 hl, hline]
      exact hused
  | cons g gs ih =>
    obtain ⟨hw, hwhole⟩ := List.forall_mem_cons.1 hwhole
    obtain ⟨hg, hcells⟩ := List.forall_mem_cons.1 hcells
    intro l hl
    rw [chopFrom] at hl
    split at hl
    · rcases List.mem_cons.1 hl with rfl | hl
      · omega
      · exact ih hwhole hcells hw.sum_chars hg l hl
    · refine ih hwhole hcells ?_ (by omega) l hl
      rw [sum_append, hline, hw.sum_chars]

end Chop

/-- **A text that takes cells is cut into lines** that are the text, and fit. -/
theorem chop_spec {limit : Nat} {s : List Char} (h : Plain s) (hlimit : 2 ≤ limit)
    (hs : 0 < sum s) :
    (chop limit s).flatten = s ∧ ∀ l ∈ chop limit s, sum l ≤ limit := by
  have hwhole := isWhole_graphemes h
  have hcells : ∀ g ∈ graphemes s, g.cells ≤ limit := fun g hg =>
    Nat.le_trans (hwhole g hg).cells_le hlimit
  have hsum := sum_text hwhole
  rw [text_graphemes] at hsum
  refine ⟨?_, sum_le_of_mem_chopFrom hwhole hcells rfl (Nat.zero_le _)⟩
  rw [chop, flatten_chopFrom hcells (Nat.zero_le _) (by omega), text_graphemes, List.nil_append]

/-! ## The start of a text -/

theorem mem_takeFrom {n : Nat} {gs : List Grapheme} {c : Char} (h : c ∈ takeFrom n gs) :
    c = ' ' ∨ c ∈ text gs := by
  fun_induction takeFrom n gs with
  | case1 => cases h
  | case2 => cases h
  | case3 => exact .inl (List.mem_singleton.1 h)
  | case4 n g gs _ _ ih =>
    rw [text_cons, List.mem_append]
    rcases List.mem_append.1 h with h | h
    · exact .inr (.inl h)
    · exact (ih h).imp_right .inr

theorem sum_takeFrom_le {gs : List Grapheme} (h : ∀ g ∈ gs, g.IsWhole) (n : Nat) :
    sum (takeFrom n gs) ≤ n := by
  fun_induction takeFrom n gs with
  | case1 => exact Nat.zero_le _
  | case2 => exact Nat.zero_le _
  | case3 n g gs hzero hcells =>
    have hspace : sum [' '] = 1 := by decide
    omega
  | case4 n g gs _ hcells ih =>
    have hrest := ih fun g hg => h g (.tail _ hg)
    rw [sum_append, (h g (.head _)).sum_chars]
    omega

theorem Grapheme.IsWhole.cells_le_sum_trimRight {g : Grapheme} (h : g.IsWhole) {s : List Char}
    (hs : withoutBlanks (g.chars ++ s) ≠ []) : g.cells ≤ sum (trimRight (g.chars ++ s)) := by
  obtain ⟨c, marks, hchars, hcells, -⟩ := h
  rw [hchars, List.cons_append] at hs ⊢
  obtain ⟨s', hs'⟩ := exists_trimRight_cons hs
  rw [hs', sum_cons, hcells]
  omega

/-- **The start of a text** that holds all but the white space at its end has lost white space
only. -/
theorem withoutBlanks_takeFrom {gs : List Grapheme} (h : ∀ g ∈ gs, g.IsWhole) {n : Nat}
    (hfit : sum (trimRight (text gs)) ≤ n) :
    withoutBlanks (takeFrom n gs) = withoutBlanks (text gs) := by
  fun_induction takeFrom n gs with
  | case1 => rfl
  | case2 n g gs hzero =>
    -- no cell is left for this grapheme, so it starts the white space at the end
    refine Decidable.byContradiction fun hne => ?_
    have := (h g (.head _)).cells_le_sum_trimRight (s := text gs) (Ne.symm hne)
    rw [text_cons] at hfit
    omega
  | case3 n g gs hzero hcells =>
    refine Decidable.byContradiction fun hne => ?_
    have := (h g (.head _)).cells_le_sum_trimRight (s := text gs) (Ne.symm hne)
    rw [text_cons] at hfit
    omega
  | case4 n g gs _ hcells ih =>
    rw [withoutBlanks_append, text_cons, withoutBlanks_append, ih fun g hg => h g (.tail _ hg)]
    by_cases hblank : withoutBlanks (text gs) = []
    · have hnil : trimRight (text gs) = [] := by
        have := trimRight_append (s := []) (withoutBlanks_eq_nil.1 hblank)
        rw [List.nil_append] at this
        rw [this]
        rfl
      rw [hnil]
      exact Nat.zero_le _
    · rw [text_cons, trimRight_append_of_ne_nil hblank, sum_append,
        (h g (.head _)).sum_chars] at hfit
      omega

end Cells

end BindingIndex.Text
