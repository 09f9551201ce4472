import BindingIndex.CommandLine.Arguments
import BindingIndex.Proofs.Results

/-!
# Commands that know more options

A command may know the options of another one and some more, like the generate command those of the
show command. Where the other can read its arguments, it reads the same in them: its own options
come last and have two dashes, so none of them is found in place of a short option.
-/

namespace BindingIndex.CommandLine

variable {specs more : List OptionSpec}

theorem find?_specs_append {P : OptionSpec → Bool} {s : OptionSpec} (h : specs.find? P = some s) :
    (specs ++ more).find? P = some s := by
  rw [List.find?_append, h]
  rfl

theorem readShort_append {letters : Text} {r : Reading} (h : readShort specs letters = .ok r) :
    readShort (specs ++ more) letters = .ok r := by
  induction letters generalizing r with
  | nil => exact h
  | cons c rest ih =>
    rw [readShort] at h ⊢
    cases hs : specs.find? fun s => s.short.map CodePoint.char = some c with
    | none =>
      rw [hs] at h
      cases h
    | some s =>
      rw [hs] at h
      rw [find?_specs_append hs]
      dsimp only at h ⊢
      split at h
      · rename_i hvalue
        rw [if_pos hvalue]
        exact h
      · rename_i hvalue
        obtain ⟨r', hrest, rfl⟩ := map_eq_ok_iff.1 h
        rw [if_neg hvalue, ih hrest]
        rfl

theorem readOption_append (hmore : ∀ s ∈ more, Text.ofString "--" <+: s.long) {arg : Text}
    {r : Reading} (h : readOption specs arg = .ok r) : readOption (specs ++ more) arg = .ok r := by
  rw [readOption] at h ⊢
  cases hs : specs.find? fun s => arg.takeWhile (· ≠ .char '=') = s.long with
  | some s =>
    rw [hs] at h
    rw [find?_specs_append hs]
    exact h
  | none =>
    rw [hs] at h
    dsimp only at h
    split at h
    · cases h
    · rename_i hshort
      -- a long name in `more` would make a long option of it
      have hnone : more.find? (fun s => arg.takeWhile (· ≠ .char '=') = s.long) = none := by
        refine List.find?_eq_none.2 fun s hmem hlong => hshort ?_
        have hdashes := hmore s hmem
        rw [← of_decide_eq_true hlong] at hdashes
        exact List.isPrefixOf_iff_prefix.2 (hdashes.trans (List.takeWhile_prefix _))
      rw [List.find?_append, hs, hnone]
      dsimp only [Option.or]
      rw [if_neg hshort]
      exact readShort_append h

theorem readArguments_append (hmore : ∀ s ∈ more, Text.ofString "--" <+: s.long)
    {args : List Text} {g : Given} (h : readArguments specs args = .ok g) :
    readArguments (specs ++ more) args = .ok g := by
  fun_induction readArguments specs args generalizing g with
  | case1 => exact h
  | case2 rest =>
    rw [readArguments, if_pos rfl]
    exact h
  | case3 => cases h
  | case4 arg rest hdashes hoption given hread ih =>
    obtain ⟨g', hrest, rfl⟩ := map_eq_ok_iff.1 h
    rw [readArguments, if_neg hdashes, if_pos hoption, readOption_append hmore hread]
    dsimp only
    rw [ih hrest]
    rfl
  | case5 => cases h
  | case6 arg hdashes hoption given key name hread value rest ih =>
    obtain ⟨g', hrest, rfl⟩ := map_eq_ok_iff.1 h
    rw [readArguments, if_neg hdashes, if_pos hoption, readOption_append hmore hread]
    dsimp only
    rw [ih hrest]
    rfl
  | case7 arg rest hdashes hoption ih =>
    obtain ⟨g', hrest, rfl⟩ := map_eq_ok_iff.1 h
    rw [readArguments, if_neg hdashes, if_neg hoption, ih hrest]
    rfl

theorem readOptions_eq_ok_iff {args : List Text} {g : Given} :
    readOptions specs args = .ok g ↔ readArguments specs args = .ok g ∧ g.extra = [] := by
  rw [readOptions]
  cases readArguments specs args with
  | error e => simp
  | ok g' =>
    dsimp only
    split
    · rename_i hextra
      constructor
      · intro h
        cases h
        exact ⟨rfl, hextra⟩
      · exact And.left
    · rename_i hextra
      constructor
      · intro h
        cases h
      · rintro ⟨h, hnone⟩
        cases h
        exact absurd hnone hextra

/-- **Arguments that can be read** are read the same by a command that knows more options. -/
theorem readOptions_append (hmore : ∀ s ∈ more, Text.ofString "--" <+: s.long)
    {args : List Text} {g : Given} (h : readOptions specs args = .ok g) :
    readOptions (specs ++ more) args = .ok g := by
  obtain ⟨hargs, hextra⟩ := readOptions_eq_ok_iff.1 h
  exact readOptions_eq_ok_iff.2 ⟨readArguments_append hmore hargs, hextra⟩

end BindingIndex.CommandLine
