import BindingIndex.FileTree.Basic

/-!
# Paths that the system takes

A path is passed on to the system if it holds no NUL and every surrogate in it stands for a stray
byte (`Passable`). No operation is tried on another path (`barred?_eq_none_iff`).
-/

namespace BindingIndex

namespace Text

theorem faultFrom_eq_none_iff {spared : Fin 0x800 → Bool} {position : Nat} {t : Text} :
    faultFrom spared position t = none ↔ ∀ n, .surrogate n ∈ t → spared n = true := by
  induction t generalizing position with
  | nil => simp [faultFrom]
  | cons c t ih =>
    cases c with
    | char c => simp [faultFrom, ih]
    | surrogate n => by_cases hn : spared n = true <;> simp [faultFrom, hn, ih]

end Text

namespace Path

open Text.Utf8

def isPassable : CodePoint → Bool
  | .char c => c ≠ '\x00'
  | .surrogate n => isStray n

/-- The system takes the path as it is. -/
def Passable (p : Path) : Prop := ∀ n ∈ p.names, ∀ c ∈ n, isPassable c = true

instance (p : Path) : Decidable p.Passable :=
  inferInstanceAs (Decidable (∀ n ∈ p.names, ∀ c ∈ n, isPassable c = true))

theorem Passable.parent {p : Path} (h : p.Passable) : p.parent.Passable :=
  fun n hn => h n (List.dropLast_subset _ hn)

theorem Passable.join {p q : Path} (hp : p.Passable) (hq : q.Passable) : (p.join q).Passable := by
  rw [Path.join]
  split
  · exact hq
  · exact fun n hn => (List.mem_append.1 hn).elim (hp n) (hq n)

theorem surrogate_mem_toText {p : Path} {s : Fin 0x800} :
    CodePoint.surrogate s ∈ p.toText ↔ ∃ n ∈ p.names, CodePoint.surrogate s ∈ n := by
  have hsep : ∀ names : List Text, CodePoint.surrogate s ∈ (Text.ofString "/").intercalate names ↔
      ∃ n ∈ names, CodePoint.surrogate s ∈ n := by
    intro names
    have hslash : CodePoint.surrogate s ∉ Text.ofString "/" := by simp [Text.ofString, Text.ofChars]
    induction names with
    | nil => simp
    | cons n names ih =>
      cases names with
      | nil => simp
      | cons m names =>
        rw [List.intercalate_cons_cons]
        simp [hslash, ih]
  have hroot : CodePoint.surrogate s ∉ Text.ofString (rootText p.root) := by
    simp [Text.ofString, Text.ofChars]
  rw [← hsep, toText]
  split
  · rename_i hempty
    rw [(List.append_eq_nil_iff.1 hempty).2]
    simp [Text.ofString, Text.ofChars]
  · rw [List.mem_append]
    exact or_iff_right hroot

end Path

/-- **The paths that are passed on.** -/
theorem FileError.barred?_eq_none_iff {p : Path} : barred? p = none ↔ p.Passable := by
  have hnul : p.hasNul = false ↔ ∀ n ∈ p.names, CodePoint.char '\x00' ∉ n := by
    simp [Path.hasNul]
  have hstray : Text.Utf8.nameFault? p.toText = none ↔
      ∀ n ∈ p.names, ∀ s, CodePoint.surrogate s ∈ n → Text.Utf8.isStray s = true := by
    rw [Text.Utf8.nameFault?, Text.faultFrom_eq_none_iff]
    simp only [Path.surrogate_mem_toText]
    exact ⟨fun h n hn s hs => h s ⟨n, hn, hs⟩, fun h s ⟨n, hn, hs⟩ => h n hn s hs⟩
  have hboth : barred? p = none ↔ Text.Utf8.nameFault? p.toText = none ∧ p.hasNul = false := by
    rw [barred?]
    cases Text.Utf8.nameFault? p.toText <;> simp
  rw [hboth, hstray, hnul]
  constructor
  · rintro ⟨hs, hc⟩ n hn c hmem
    cases c with
    | char c => exact decide_eq_true fun he => hc n hn (he ▸ hmem)
    | surrogate s => exact hs n hn s hmem
  · intro h
    refine ⟨fun n hn s hs => h n hn _ hs, fun n hn hc => ?_⟩
    simpa [Path.isPassable] using h n hn _ hc

end BindingIndex
