import BindingIndex.CommandLine.Generate
import BindingIndex.Proofs.ClassFile.Rewrite

/-!
# What a run does with its source

`Delivers t r c source`: the request `r`, which is run with the configuration `c`, prints `source`
or brings the class file up to date with it. Every run that renders a source delivers it
(`delivers_of_render`).

Printing leaves control sequences out; a text without an escape character has none
(`withoutEscapes_of_not_mem`). It needs a source without surrogates, and so does writing.
-/

namespace BindingIndex

namespace Console

theorem withoutEscapes_of_not_mem {s : Text} (h : CodePoint.char '\x1b' ∉ s) :
    withoutEscapes s = s := by
  induction s with
  | nil => rw [withoutEscapes]
  | cons p s ih =>
    rw [List.mem_cons, not_or] at h
    rw [withoutEscapes, if_neg (Ne.symm h.1), ih h.2]

theorem afterEscape?_suffix {s after : Text} (h : afterEscape? s = some after) : after <:+ s := by
  unfold afterEscape? at h
  split at h
  · rename_i rest
    split at h
    · rename_i c after' hafter
      split at h
      · cases h
        have hdrop := List.dropWhile_suffix isParameter (l := rest)
        rw [hafter] at hdrop
        exact ((List.suffix_cons _ _).trans hdrop).trans (List.suffix_cons _ _)
      · cases h
    · cases h
  · cases h

theorem withoutEscapes_subset (s : Text) : withoutEscapes s ⊆ s := by
  fun_induction withoutEscapes s with
  | case1 => exact List.Subset.refl _
  | case2 rest after hafter _ ih =>
    exact List.subset_cons_of_subset _ (List.Subset.trans ih (afterEscape?_suffix hafter).subset)
  | case3 rest hafter ih => exact List.cons_subset_cons _ ih
  | case4 p rest hp ih => exact List.cons_subset_cons _ ih

theorem isUnicode_withoutEscapes {s : Text} (h : s.IsUnicode) : (withoutEscapes s).IsUnicode :=
  fun p hp => h p (withoutEscapes_subset s hp)

end Console

namespace CommandLine

@[simp] theorem Outcome.tree_printing (t : FileTree) (output : List Char) (events : List Event)
    (ending : Ending) (shown : Except Console.Fault (List Char)) :
    (Outcome.printing t output events ending shown).tree = t := by
  cases shown <;> rfl

/-- What the request does with the source: a dry run prints it and changes nothing; any other run
writes it for the configured package, and a write that succeeds leaves its bytes in the file. -/
structure Delivers (t : FileTree) (r : GenerateRequest) (c : Config) (source : Text) : Prop where
  printed : r.dryRun = true → (generate t r).tree = t ∧
    (source.IsUnicode → (generate t r).ending = .success ∧
      Text.ofChars (generate t r).output = Console.withoutEscapes source ∧
      (CodePoint.char '\x1b' ∉ source → Text.ofChars (generate t r).output = source))
  written : r.dryRun = false →
    (generate t r).tree = (ClassFile.write t c.outputDir c.generation.packageName source).1 ∧
    ∀ w, (ClassFile.write t c.outputDir c.generation.packageName source).2 = .ok w →
      ∃ bytes, Text.Utf8.encodeText source = .ok bytes ∧
        (generate t r).tree.read (ClassFile.target c.outputDir c.generation.packageName) = .ok bytes

variable {t : FileTree}

theorem tree_store (verbose : Bool) (events : List Event) (p : Prepared) (source : Text) :
    (store t verbose events p source).tree =
      (ClassFile.write t p.config.outputDir p.config.generation.packageName source).1 := by
  rw [store]
  split
  · rename_i h
    rw [h]
  · rename_i h
    rw [h]
    exact Outcome.tree_printing _ _ _ _ _

theorem resolve_of_prepare {o : Options} {events : List Event} {p : Prepared}
    (h : prepare t o = (events, .ok p)) : Config.resolve t o = .ok p.config := by
  rw [prepare] at h
  split at h
  · cases h
  · rename_i c hc
    split at h
    · cases h
    · cases h
      exact hc

@[simp] theorem tree_refuse (t : FileTree) (events : List Event) (f : Failure) :
    (refuse t events f).tree = t := by
  rw [refuse]
  split
  · exact Outcome.tree_printing _ _ _ _ _
  · rfl

theorem generate_eq_store {r : GenerateRequest} {events : List Event} {p : Prepared}
    {source : Text} (hp : prepare t r.options = (events, .ok p))
    (hs : ClassText.render p.names p.config.generation = .ok source) (hr : r.dryRun = false) :
    generate t r = store t r.verbose
      (events ++ [.rendering p.config.generation.packageName (distinct p.names)]) p source := by
  rw [generate, hp]
  dsimp only
  rw [hs]
  exact if_neg (by rw [hr]; exact Bool.false_ne_true)

theorem generate_eq_print {r : GenerateRequest} {events : List Event} {p : Prepared}
    {source : Text} (hp : prepare t r.options = (events, .ok p))
    (hs : ClassText.render p.names p.config.generation = .ok source) (hr : r.dryRun = true) :
    generate t r =
      match (Console.withoutEscapes source).chars with
      | .ok shown => ⟨t, shown, shownEvents r.verbose
          (events ++ [.rendering p.config.generation.packageName (distinct p.names)]), .success⟩
      | .error f => ⟨t, [], shownEvents r.verbose
          (events ++ [.rendering p.config.generation.packageName (distinct p.names)]),
          .failed (.unencodable f)⟩ := by
  rw [generate, hp]
  dsimp only
  rw [hs]
  exact if_pos hr

/-- **A source that is rendered** is delivered. -/
theorem delivers_of_render {r : GenerateRequest} {events : List Event} {p : Prepared}
    {source : Text} (hp : prepare t r.options = (events, .ok p))
    (hs : ClassText.render p.names p.config.generation = .ok source) :
    Delivers t r p.config source := by
  constructor
  · intro hdry
    have hrun : ∀ shown, (Console.withoutEscapes source).chars = .ok shown → generate t r =
        ⟨t, shown, shownEvents r.verbose
          (events ++ [.rendering p.config.generation.packageName (distinct p.names)]),
          .success⟩ := by
      intro shown hshown
      rw [generate_eq_print hp hs hdry, hshown]
    refine ⟨?_, fun hu => ?_⟩
    · rw [generate_eq_print hp hs hdry]
      split <;> rfl
    · obtain ⟨shown, hshown⟩ := (Console.isUnicode_withoutEscapes hu).exists_chars
      rw [hrun shown (Text.chars_eq_ok_iff.2 hshown)]
      refine ⟨rfl, hshown.symm, fun hesc => ?_⟩
      rw [← hshown, Console.withoutEscapes_of_not_mem hesc]
  · intro hdry
    rw [generate_eq_store hp hs hdry, tree_store]
    refine ⟨rfl, fun w hw => ?_⟩
    exact (ClassFile.read_of_write_ok (Prod.ext rfl hw)).2

end CommandLine

end BindingIndex
