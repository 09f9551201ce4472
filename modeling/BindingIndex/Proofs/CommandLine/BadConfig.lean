import BindingIndex.CommandLine.Run
import BindingIndex.Proofs.CommandLine.Preview
import BindingIndex.Proofs.Config.Valid
import BindingIndex.Proofs.FileTree.Overlong
import BindingIndex.Proofs.Yaml.Readable

/-!
# Configuration files that cannot be used

Most of what can be wrong with a configuration file is a configuration error: it is missing, it
cannot be read, its bytes are no text, the text is no document, or the document is no valid
configuration. Two things are not, and escape (`Config.Escapes`): a key on the top level that is no
text, and a scalar that its tag or its spelling promises to be something that its text is not, or
whose text has no end because a mapping stands for its own. For a
path that the system takes there is nothing else (`load_escapes_iff`), since asking whether such a
path exists always has an answer (`FileTree.exists?_of_fits`). Of the scalars those escape that the
tokens or the nodes of the document are to blame for (`Yaml.read_error_cases`).

A command whose configuration file fails to load changes nothing and ends with exit code 1 in either
case, but it only reports a configuration error: `load_failure`.
-/

namespace BindingIndex

namespace Config

variable {t : FileTree} {bytes : List UInt8}

/-- The failures over the bytes of a file that are no configuration errors: a key that is no text,
and a scalar whose text does not fit its kind. -/
inductive Escapes (bytes : List UInt8) : Failure → Prop
  | key {id : Option Nat} {entries : List (Value × Value)} {e : Value × Value} :
      Yaml.read (.ofBytes bytes) = .ok (.dict id entries) → e ∈ entries → hasTextKey e = false →
      Escapes bytes .nonTextKey
  | scalar {f : Yaml.Fault} : Yaml.read (.ofBytes bytes) = .error f → ¬ f.OfDocument →
      Escapes bytes (.scalar f)

theorem ofDocument_eq_error {v : Value} {f : Failure} (h : ofDocument v = .error f) :
    (∃ e, f = .config e) ∨
    (f = .nonTextKey ∧ ∃ id entries, v = .dict id entries ∧
      ∃ e ∈ entries, hasTextKey e = false) := by
  unfold ofDocument at h
  split at h
  · cases h
    exact .inl ⟨_, rfl⟩
  · rename_i id entries
    split at h
    · split at h
      · cases h
      · cases h
        exact .inl ⟨_, rfl⟩
    · rename_i hkeys
      cases h
      obtain ⟨e, he, hkey⟩ := List.all_eq_false.1 (Bool.eq_false_iff.2 hkeys)
      exact .inr ⟨rfl, id, entries, rfl, e, he, Bool.eq_false_iff.2 hkey⟩
  · cases h
    exact .inl ⟨_, rfl⟩

theorem ofDocument_of_key {id : Option Nat} {entries : List (Value × Value)} {e : Value × Value}
    (he : e ∈ entries) (hkey : hasTextKey e = false) :
    ofDocument (.dict id entries) = .error .nonTextKey := by
  have hall : entries.all hasTextKey ≠ true := fun hall => by
    rw [List.all_eq_true.1 hall e he] at hkey
    cases hkey
  exact if_neg hall

/-- **What escapes** of the bytes of a file. -/
theorem ofBytes_escapes_iff (path : Path) {f : Failure} (hf : ∀ e, f ≠ .config e) :
    ofBytes path bytes = .error f ↔ Escapes bytes f := by
  constructor
  · intro h
    rw [ofBytes] at h
    split at h
    · rename_i v hv
      rcases ofDocument_eq_error h with ⟨e, he⟩ | ⟨rfl, id, entries, rfl, e, he, hkey⟩
      · exact absurd he (hf e)
      · exact .key hv he hkey
    · cases h
      exact absurd rfl (hf _)
    · cases h
      exact absurd rfl (hf _)
    · rename_i f' hmalformed hunreadable hread
      cases h
      refine .scalar hread ?_
      rintro (rfl | ⟨g, rfl⟩)
      · exact hmalformed rfl
      · exact hunreadable g rfl
  · intro h
    cases h with
    | key hread he hkey =>
      rw [ofBytes, hread]
      exact ofDocument_of_key he hkey
    | @scalar f hread hforeign =>
      rw [ofBytes, hread]
      cases f with
      | malformed => exact absurd (.inl rfl) hforeign
      | unreadable g => exact absurd (.inr ⟨g, rfl⟩) hforeign
      | _ => rfl

/-- **What escapes** when a configuration is loaded: on a path that the system takes, what escapes
of the bytes of its file, and nothing else. -/
theorem load_escapes_iff {path : Path} (hpath : path.Fits) {f : Failure} (hf : ∀ e, f ≠ .config e) :
    load t path = .error f ↔ ∃ bytes, t.read path = .ok bytes ∧ Escapes bytes f := by
  constructor
  · intro h
    obtain ⟨there, hthere⟩ := FileTree.exists?_of_fits (t := t) hpath
    rw [load, hthere] at h
    cases there with
    | false =>
      cases h
      exact absurd rfl (hf _)
    | true =>
      dsimp only at h
      split at h
      · cases h
        exact absurd rfl (hf _)
      · rename_i bytes hread
        refine ⟨bytes, hread, (ofBytes_escapes_iff path hf).1 ?_⟩
        cases hbytes : ofBytes path bytes with
        | error f' =>
          rw [hbytes] at h
          exact h
        | ok c =>
          rw [hbytes] at h
          cases h
  · rintro ⟨bytes, hread, hescapes⟩
    rw [load, FileTree.exists?_of_read hread]
    dsimp only
    rw [hread]
    dsimp only
    rw [(ofBytes_escapes_iff path hf).2 hescapes]
    rfl

end Config

namespace CommandLine

open Config (givenPath)

variable {t : FileTree} {path : Path}

/-- The options of a command that may name a configuration file. -/
def Command.options? : Command → Option Options
  | generate r => some r.options
  | showIndices o => some o
  | initConfig _ => none

/-- The outcome of a run that a failure stops before its work. It changes nothing; a configuration
error is printed, and what is not reported is left to whoever runs the command. -/
structure Stopped (t : FileTree) (f : Failure) (out : Outcome) : Prop where
  tree : out.tree = t
  exitCode : out.ending.exitCode = 1
  reported : ∀ e shown, f = .config e → Console.printParagraph (errorMarkup e.message) = .ok shown →
    out.output = shown ∧ out.ending = .reported
  escaped : isReported f = false → out.output = [] ∧ out.ending = .failed f

theorem stopped_refuse (t : FileTree) (events : List Event) (f : Failure) :
    Stopped t f (refuse t events f) := by
  refine ⟨tree_refuse _ _ _, exitCode_refuse _ _ _, ?_, fun hf => ?_⟩
  · rintro e shown rfl hshown
    have hreported : isReported (.config e) = true := rfl
    have hmessage : Failure.message (.config e) = e.message := rfl
    rw [refuse, if_pos hreported, hmessage, hshown]
    exact ⟨rfl, rfl⟩
  · rw [refuse, hf]
    exact ⟨rfl, rfl⟩

theorem prepare_of_load_error {o : Options} {f : Failure} (hpath : givenPath o.config = some path)
    (hload : Config.load t path = .error f) : prepare t o = ([], .error f) := by
  obtain ⟨text, htext, rfl⟩ := Option.map_eq_some_iff.1 hpath
  have hresolve : Config.resolve t o = .error f := by
    rw [Config.resolve, htext]
    dsimp only
    rw [hload]
    rfl
  rw [prepare, hresolve]

theorem stopped_of_prepare_error {args : List Text} {c : Command} {o : Options}
    {events : List Event} {f : Failure} (hprepare : prepare t o = (events, .error f))
    (hargs : Command.ofArguments args = .ok c) (hoptions : c.options? = some o) (input : String) :
    Stopped t f (run t args input) := by
  rw [run, hargs]
  cases c with
  | generate r =>
    cases hoptions
    show Stopped t f (generate t r)
    rw [generate, hprepare]
    exact stopped_refuse t _ f
  | showIndices o' =>
    cases hoptions
    show Stopped t f (showIndices t o)
    rw [showIndices, hprepare]
    exact stopped_refuse t _ f
  | initConfig output => cases hoptions

/-- **What comes of a configuration file that cannot be loaded.** Let neither its path nor a name in
it be too long. What is no configuration error escapes of the bytes of the file: a key on the top
level is no text, or the document cannot be read for another reason than its format or its bytes.
Then a mapping stands for its own text without an end, or the tokens or the text of a node cannot be
read. Every run with this file changes nothing and ends with exit code 1, but it reports a
configuration error only. -/
theorem load_failure (hpath : path.Fits) :
    (∀ f, (∀ e, f ≠ .config e) →
      (Config.load t path = .error f ↔
        ∃ bytes, t.read path = .ok bytes ∧ Config.Escapes bytes f)) ∧
    (∀ bytes f, Config.Escapes bytes (.scalar f) →
      f = .endless ∨ ∃ input, Yaml.Input.ofStream (.ofBytes bytes) = .ok input ∧
        (Yaml.Graph.ofTokens (.ofText input.text input.fault) = .error f ∨
          ∃ g root, Yaml.Graph.ofTokens (.ofText input.text input.fault) = .ok (g, some root) ∧
            ∃ n ∈ g, ¬ n.Readable)) ∧
    ∀ f, Config.load t path = .error f → ∀ args input c o,
      Command.ofArguments args = .ok c → c.options? = some o → givenPath o.config = some path →
      Stopped t f (run t args input) := by
  refine ⟨fun f hf => Config.load_escapes_iff hpath hf, fun bytes f h => ?_,
    fun f hload args input c o hargs hoptions hconfig =>
      stopped_of_prepare_error (prepare_of_load_error hconfig hload) hargs hoptions input⟩
  cases h with
  | scalar hread hforeign => exact (Yaml.read_error_cases hread).resolve_left hforeign

def promiseText : String := "generation:\n  package_name: !!int abc\n"

def numberedText : String := "generation:\n  package_name: app\n1: x\n"

def shoddy : FileTree where
  current := ["work"]
  items := [(["work", "a.yaml"], .file (Text.Utf8.encode promiseText)),
    (["work", "b.yaml"], .file (Text.Utf8.encode numberedText))]

theorem escapes_promiseText :
    Config.Escapes (Text.Utf8.encode promiseText) (.scalar (.integer "abc" 10)) := by
  refine .scalar (error_of_error? (by decide +kernel)) ?_
  rintro (h | ⟨g, h⟩) <;> cases h

theorem fits_shoddy : (Path.ofText "a.yaml").Fits ∧ (Path.ofText "b.yaml").Fits :=
  ⟨⟨by decide, by decide⟩, ⟨by decide, by decide⟩⟩

theorem read_promise : shoddy.read (.ofText "a.yaml") = .ok (Text.Utf8.encode promiseText) := by
  decide

theorem promise_ne_config (e : ConfigError) :
    Failure.scalar (.integer "abc" 10) ≠ .config e := by
  intro h
  cases h

/-- Neither path is too long, and neither failure is a configuration error. -/
theorem load_shoddy_escapes :
    ((Path.ofText "a.yaml").Fits ∧
      Config.load shoddy (.ofText "a.yaml") = .error (.scalar (.integer "abc" 10)) ∧
      ∀ e, Failure.scalar (.integer "abc" 10) ≠ .config e) ∧
    (Path.ofText "b.yaml").Fits ∧
    ∃ f, Config.load shoddy (.ofText "b.yaml") = .error f ∧ isReported f = false ∧
      f.message = "keywords must be strings" := by
  refine ⟨⟨fits_shoddy.1, ?_, promise_ne_config⟩, fits_shoddy.2, ?_⟩
  · exact (Config.load_escapes_iff fits_shoddy.1 promise_ne_config).2
      ⟨_, read_promise, escapes_promiseText⟩
  · have hload : (error? (Config.load shoddy (.ofText "b.yaml"))).map
        (fun f => (isReported f, f.message)) =
          some (false, ("keywords must be strings" : Text)) := by
      decide +kernel
    obtain ⟨f, hf, hboth⟩ := Option.map_eq_some_iff.1 hload
    exact ⟨f, error_of_error? hf, congrArg Prod.fst hboth, congrArg Prod.snd hboth⟩

theorem load_failure_shoddy :
    (Path.ofText "a.yaml").Fits ∧
    (∀ f, (∀ e, f ≠ .config e) → (Config.load shoddy (.ofText "a.yaml") = .error f ↔
      ∃ bytes, shoddy.read (.ofText "a.yaml") = .ok bytes ∧ Config.Escapes bytes f)) ∧
    Stopped shoddy (.scalar (.integer "abc" 10)) (run shoddy ["show", "-c", "a.yaml"] "") :=
  have h := load_failure (t := shoddy) fits_shoddy.1
  have hload := (h.1 _ promise_ne_config).2 ⟨_, read_promise, escapes_promiseText⟩
  have hargs : Command.ofArguments ["show", "-c", "a.yaml"] =
      .ok (.showIndices ⟨some "a.yaml", none, [], none, none, none⟩) :=
    ok_of_toOption (by decide +kernel)
  ⟨fits_shoddy.1, h.1, h.2.2 _ hload _ "" _ _ hargs rfl rfl⟩

end CommandLine

end BindingIndex
