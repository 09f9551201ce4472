import BindingIndex.Proofs.CommandLine.BadConfig
import BindingIndex.Proofs.Text.Decoding

/-!
# Property lists that cannot be read

Reading the property list of a path has five ends (`PropertyList.Ends`): the names in a text; no
such file; a directory in its place; bytes that are no text; and a path that the system refuses for
its length. For each tree and path there is one (`exists_ends`, `read_of_ends`).

All but the last of the failures are configuration errors. A path that is too long is found out by
the question whether there is a file at all, and this failure is not reported as a configuration
error (`overlong_list_escapes`). A run that gets to a list which cannot be read changes nothing,
whatever the failure: `list_failure`.
-/

namespace BindingIndex

namespace PropertyList

open Text

variable {t : FileTree} {path : Path}

/-- What reading the property list of a path comes to. -/
inductive Ends (t : FileTree) (path : Path) : Except Failure (List String) → Prop
  | names {text : List Char} : t.read path = .ok (Utf8.encodeChars text) →
      Ends t path (.ok (PropertyList.names text))
  | missing : ¬ path.Passable ∨ ((∀ item, t.lookup path ≠ .ok item) ∧ ¬ t.Overlong path) →
      Ends t path (.error (.config (.listNotFound path)))
  | directory : path.Passable → t.lookup path = .ok .dir →
      Ends t path (.error (.config (.listUnreadable path (.file (.system .isDirectory path)))))
  | undecodable {bytes : List UInt8} {f : Utf8.Fault} : t.read path = .ok bytes →
      (∀ text, bytes ≠ Utf8.encodeChars text) → Utf8.decode bytes = .error f →
      Ends t path (.error (.config (.listUnreadable path (.text f))))
  | overlong : path.Passable → t.Overlong path →
      Ends t path (.error (.file (.system .nameTooLong path)))

theorem read_of_ends {r : Except Failure (List String)} (h : Ends t path r) :
    (read t path).mapError Config.listFailure = r := by
  rw [read]
  cases h with
  | names hread =>
    rw [FileTree.exists?_of_read hread, hread]
    dsimp only
    rw [Utf8.decode_encodeChars]
    rfl
  | missing hnone =>
    rw [FileTree.exists?_eq_false_iff.2 hnone]
    rfl
  | directory hpass hdir =>
    have hread : t.read path = .error (.system .isDirectory path) := by
      rw [FileTree.read, FileError.barred?_eq_none_iff.2 hpass, hdir]
    rw [FileTree.exists?_eq_true_iff_lookup.2 ⟨hpass, _, hdir⟩, hread]
    rfl
  | undecodable hread _ hdecode =>
    rw [FileTree.exists?_of_read hread, hread]
    dsimp only
    rw [hdecode]
    rfl
  | overlong hpass hlong =>
    rw [FileTree.exists?_eq_error_iff.2 ⟨hpass, hlong, rfl⟩]
    rfl

theorem exists_ends (t : FileTree) (path : Path) : ∃ r, Ends t path r := by
  cases hthere : t.exists? path with
  | error e =>
    obtain ⟨hpass, hlong, -⟩ := FileTree.exists?_eq_error_iff.1 hthere
    exact ⟨_, .overlong hpass hlong⟩
  | ok there =>
    cases there with
    | false => exact ⟨_, .missing (FileTree.exists?_eq_false_iff.1 hthere)⟩
    | true =>
      obtain ⟨hpass, item, hitem⟩ := FileTree.exists?_eq_true_iff_lookup.1 hthere
      cases item with
      | dir => exact ⟨_, .directory hpass hitem⟩
      | file bytes =>
        have hread : t.read path = .ok bytes := FileTree.read_ok_iff.2 ⟨hpass, hitem⟩
        cases hdecode : Utf8.decode bytes with
        | ok text =>
          obtain rfl := Utf8.decode_eq_ok_iff.1 hdecode
          exact ⟨_, .names hread⟩
        | error f =>
          refine ⟨_, .undecodable hread (fun text htext => ?_) hdecode⟩
          rw [Utf8.decode_eq_ok_iff.2 htext] at hdecode
          cases hdecode

/-- **Reading ends** in one way. -/
theorem read_eq_iff {r : Except Failure (List String)} :
    (read t path).mapError Config.listFailure = r ↔ Ends t path r := by
  refine ⟨?_, read_of_ends⟩
  rintro rfl
  obtain ⟨r, hr⟩ := exists_ends t path
  rwa [read_of_ends hr]

theorem config_of_ends {f : Failure} (h : Ends t path (.error f)) :
    (∃ e, f = .config e) ∨
      (path.Passable ∧ t.Overlong path ∧ f = .file (.system .nameTooLong path)) := by
  cases h with
  | missing => exact .inl ⟨_, rfl⟩
  | directory => exact .inl ⟨_, rfl⟩
  | undecodable => exact .inl ⟨_, rfl⟩
  | overlong hpass hlong => exact .inr ⟨hpass, hlong, rfl⟩

end PropertyList

namespace CommandLine

variable {t : FileTree} {path : Path}

theorem prepare_of_list_error {o : Options} {c : Config} {f : PropertyList.Fault}
    (hresolve : Config.resolve t o = .ok c) (hfile : c.propertiesFile = some path)
    (hread : PropertyList.read t path = .error f) :
    prepare t o = (loadedEvents o, .error (Config.listFailure f)) := by
  have hnames : Config.propertyNames t c = .error (Config.listFailure f) := by
    rw [Config.propertyNames, hfile]
    dsimp only
    rw [hread]
  rw [prepare, hresolve]
  dsimp only
  rw [hnames]

/-- **What comes of reading a property list.** It is the names in the text of a file, or one of four
failures: there is no such file, there is a directory, the bytes are no text, or the path is too
long for the system. All but the last are configuration errors, and the last one is none. Every run
whose configuration names a list that cannot be read changes nothing and ends with exit code 1, but
it reports a configuration error only. -/
theorem list_failure (t : FileTree) (path : Path) :
    (∀ r, (PropertyList.read t path).mapError Config.listFailure = r ↔
      PropertyList.Ends t path r) ∧
    (∀ f, PropertyList.Ends t path (.error f) →
      ((∃ e, f = .config e) ↔ ¬ path.Passable ∨ ¬ t.Overlong path)) ∧
    ∀ f, PropertyList.read t path = .error f → ∀ args input c o own,
      Command.ofArguments args = .ok c → c.options? = some o → Config.resolve t o = .ok own →
      own.propertiesFile = some path →
      Stopped t (Config.listFailure f) (run t args input) := by
  refine ⟨fun r => PropertyList.read_eq_iff, fun f h => ?_,
    fun f hread args input c o own hargs hoptions hresolve hfile =>
      stopped_of_prepare_error (prepare_of_list_error hresolve hfile hread) hargs hoptions input⟩
  constructor
  · rintro ⟨e, rfl⟩
    cases h with
    | missing hnone => exact hnone.imp id And.right
    | directory _ hdir => exact .inr (FileTree.not_overlong_of_lookup hdir)
    | undecodable hread =>
      exact .inr (FileTree.not_overlong_of_lookup (FileTree.read_ok_iff.1 hread).2)
  · intro hpath
    refine (PropertyList.config_of_ends h).resolve_right fun ⟨hpass, hlong, _⟩ => ?_
    exact hpath.elim (· hpass) (· hlong)

def listless : FileTree := ⟨["work"], []⟩

def longName : Text := List.replicate 256 (.char 'a')

/-- The failure over a list with a name that is too long is no configuration error, although there
is no such file. -/
theorem overlong_list_escapes :
    PropertyList.read listless (.ofText longName) =
      .error (.unanswered (.system .nameTooLong (.ofText longName))) ∧
    ∀ e, Config.listFailure (.unanswered (.system .nameTooLong (.ofText longName))) ≠
      .config e := by
  have hpass : (Path.ofText longName).Passable := by decide +kernel
  have hlong : listless.Overlong (.ofText longName) :=
    FileTree.lookup_eq_nameTooLong_iff.1 (by decide +kernel)
  constructor
  · rw [PropertyList.read, FileTree.exists?_eq_error_iff.2 ⟨hpass, hlong, rfl⟩]
  · intro e h
    cases h

/-- A list that is missing, in a run that asks for it. -/
theorem list_failure_missing :
    PropertyList.read listless (.ofText "gone.txt") = .error (.missing (.ofText "gone.txt")) ∧
    PropertyList.Ends listless (.ofText "gone.txt")
      (.error (.config (.listNotFound (.ofText "gone.txt")))) ∧
    ¬ listless.Overlong (.ofText "gone.txt") ∧
    Stopped listless (.config (.listNotFound (.ofText "gone.txt")))
      (run listless ["generate", "-p", "app", "-f", "gone.txt"] "") :=
  have h := list_failure listless (.ofText "gone.txt")
  have hread : PropertyList.read listless (.ofText "gone.txt") =
      .error (.missing (.ofText "gone.txt")) := by decide
  have hends := (h.1 _).1 (congrArg (Except.mapError Config.listFailure) hread)
  have hargs : Command.ofArguments ["generate", "-p", "app", "-f", "gone.txt"] =
      .ok (.generate ⟨⟨none, some "app", [], some "gone.txt", none, none⟩, false, false⟩) :=
    ok_of_toOption (by decide)
  have hresolve : Config.resolve listless ⟨none, some "app", [], some "gone.txt", none, none⟩ =
      .ok ⟨⟨"app", true⟩, Config.defaultOutputDir, [], some (.ofText "gone.txt")⟩ :=
    ok_of_toOption (by decide)
  have hpath := (h.2.1 _ hends).1 ⟨_, rfl⟩
  ⟨hread, hends, hpath.resolve_left (by decide),
    h.2.2 _ hread _ "" _ _ _ hargs rfl hresolve rfl⟩

end CommandLine

end BindingIndex
