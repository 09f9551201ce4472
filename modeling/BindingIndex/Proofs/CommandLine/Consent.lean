import BindingIndex.CommandLine.Init
import BindingIndex.Proofs.ClassFile.Confinement
import BindingIndex.Proofs.CommandLine.Delivery
import BindingIndex.Proofs.FileTree.Overlong
import BindingIndex.Proofs.FileTree.Placement
import BindingIndex.Proofs.Results

/-!
# Overwriting by consent

The init command asks before it overwrites what its path leads to. The first line of input that
decides settles the matter (`ask_eq`): only a yes lets it go on, and otherwise nothing changes.

What the path leads to is looked up before the directories on its way are made. If one of them was
missing, the path led nowhere, whatever it leads to afterwards (`locate_or_missing`). Going straight
down, it cannot lead to an old file then, since all that leads to one is there
(`walk_straight`); but it may step up again, out of the directory that was just made. Then the file
it leads to is overwritten, and nobody was asked. There is no third way: `init_keeps_files`.
-/

namespace BindingIndex

namespace FileTree

variable {t t' : FileTree} {p : Path} {loc : Location}

/-- A file that was put where one had been is where the path led before, or a directory on its way
was missing. -/
theorem locate_or_missing {bytes old : List UInt8} (h : PutsFile p bytes t t' loc)
    (hold : t.get? loc = some (.file old)) :
    t.locate p = .ok loc ∨ ∃ (q : Path) (l : Location), q.OnTheWay p ∧ t'.locate q = .ok l ∧
      t.get? l = none ∧ t'.get? l = some .dir := by
  by_cases hkeep : ∀ l, t'.get? l = some .dir → t.get? l = some .dir
  · exact .inl (locate_of_keepsDirs ⟨h.current.symm, hkeep⟩ h.located)
  · obtain ⟨l, hl⟩ := not_forall.1 hkeep
    obtain ⟨hdir, hne⟩ := Classical.not_imp.1 hl
    have hl : l ≠ loc := by
      rintro rfl
      rw [h.placed] at hdir
      cases hdir
    have hnone : t.get? l = none := by
      cases hg : t.get? l with
      | none => rfl
      | some item =>
        rw [h.kept l item hl hg] at hdir
        exact absurd (hg.trans hdir) hne
    obtain ⟨-, q, hq, hloc⟩ := h.added l _ hl hnone hdir
    exact .inr ⟨q, l, hq, hloc, hnone, hdir⟩

theorem walk_straight (hwf : WellFormed t) {names : List Text} (hup : (".." : Text) ∉ names)
    {base r : Location} {item : Item} (h : t'.walk base names = .ok r)
    (hitem : t.get? (base ++ names.map Text.Utf8.fileName) = some item) :
    t.walk base names = .ok r := by
  induction names generalizing base with
  | nil => exact h
  | cons name rest ih =>
    simp only [List.mem_cons, not_or] at hup
    obtain ⟨-, ⟨rfl, -⟩ | ⟨hname, hlen, hrest⟩⟩ := walk_cons_ok_iff.1 h
    · exact absurd rfl hup.1
    · rw [List.map_cons] at hitem
      have hdir := hwf.dir_of_append hitem
      rw [List.append_cons] at hitem
      exact walk_cons_ok_iff.2 ⟨hdir, .inr ⟨hname, hlen, ih hup.2 hrest hitem⟩⟩

theorem PutsFile.locate_before {bytes old : List UInt8} (h : PutsFile p bytes t t' loc)
    (hwf : WellFormed t) (hup : (".." : Text) ∉ p.names) (hold : t.get? loc = some (.file old)) :
    t.locate p = .ok loc := by
  obtain ⟨hsize, hwalk⟩ := locate_ok_iff.1 h.located
  have horigin : t'.origin p = t.origin p := by rw [origin, origin, h.current]
  rw [horigin] at hwalk
  have hloc : loc = t.origin p ++ p.names.map Text.Utf8.fileName := walk_down hup hwalk
  exact locate_ok_iff.2 ⟨hsize, walk_straight hwf hup hwalk (hloc ▸ hold)⟩

theorem exists?_eq_true_iff : t.exists? p = .ok true ↔
    p.Passable ∧ ∃ loc item, t.locate p = .ok loc ∧ t.get? loc = some item := by
  rw [exists?_eq_true_iff_lookup]
  simp only [lookup_ok_iff]
  exact and_congr_right' exists_comm

end FileTree

namespace CommandLine

open FileTree (AddsDirs PutsFile WellFormed)

variable {t : FileTree} {path : Path}

/-! ## Asking -/

/-- What the first line that decides anything decides. -/
def firstDecision (lines : List (List Char)) : Option Bool := lines.findSome? decision?

def Consent.ofDecision : Option Bool → Consent
  | some true => given
  | some false => refused
  | none => undecided

/-- **The first decision counts**, and the dialog starts with the question. -/
theorem ask_eq (question : List Char) (lines : List (List Char)) :
    ∃ rest, ask question lines = (question ++ rest, .ofDecision (firstDecision lines)) := by
  induction lines with
  | nil => exact ⟨[], by rw [ask, List.append_nil]; rfl⟩
  | cons line lines ih =>
    obtain ⟨rest, hrest⟩ := ih
    rw [ask, firstDecision, List.findSome?_cons]
    split
    · rename_i hyes
      exact ⟨line ++ ['\n'], by simp [hyes, Consent.ofDecision]⟩
    · rename_i hno
      exact ⟨line ++ ['\n'], by simp [hno, Consent.ofDecision]⟩
    · rename_i hnone
      rw [hnone, hrest]
      refine ⟨line ++ ['\n'] ++ "Error: invalid input\n".toList ++ (question ++ rest), ?_⟩
      simp [firstDecision]

/-! ## Writing -/

theorem writeDefault_cases (t : FileTree) (path : Path) :
    (∃ t₁ e, AddsDirs path.parent t t₁ ∧ Config.writeDefault t path = (t₁, .error e)) ∨
    ∃ t₁ loc, path.Passable ∧
      PutsFile path (Text.Utf8.encode Config.defaultText) t t₁ loc ∧
      Config.writeDefault t path = (t₁, .ok ()) := by
  have hdirs := FileTree.addsDirs_makeDirs t path.parent
  rw [Config.writeDefault]
  generalize t.makeDirs path.parent = made at hdirs ⊢
  obtain ⟨t₁, r⟩ := made
  cases r with
  | error e => exact .inl ⟨t₁, e, hdirs, rfl⟩
  | ok =>
    cases hw : t₁.write path (Text.Utf8.encode Config.defaultText) with
    | error e => exact .inl ⟨t₁, e, hdirs, by simp only [hw]⟩
    | ok t₂ =>
      obtain ⟨loc, hputs⟩ := (hdirs.of_onTheWay (ClassFile.parent_onTheWay path)).putsFile hw
      exact .inr ⟨t₂, loc, (FileTree.write_ok_iff.1 hw).1, hputs, by simp only [hw]⟩

theorem tree_writeNew (t : FileTree) (path : Path) (dialog : List Char) :
    (writeNew t path dialog).tree = (Config.writeDefault t path).1 := by
  rw [writeNew]
  split
  · rename_i h
    rw [h]
  · rename_i h
    rw [h, Outcome.tree_printing]

theorem isAbort_writeNew (t : FileTree) (path : Path) (dialog : List Char) :
    (writeNew t path dialog).ending.isAbort = false ∧
      dialog <+: (writeNew t path dialog).output := by
  rw [writeNew]
  split
  · exact ⟨rfl, List.prefix_refl _⟩
  · cases Console.printPanel "brgen init" (initMarkup path) with
    | error f => exact ⟨rfl, List.prefix_refl _⟩
    | ok shown => exact ⟨rfl, List.prefix_append _ _⟩

theorem putsFile_of_changed {loc : Location} {old : List UInt8}
    (hold : t.get? loc = some (.file old))
    (hne : (Config.writeDefault t path).1.get? loc ≠ some (.file old)) :
    path.Passable ∧
      PutsFile path (Text.Utf8.encode Config.defaultText) t (Config.writeDefault t path).1 loc := by
  rcases writeDefault_cases t path with ⟨t₁, e, hdirs, hwrite⟩ | ⟨t₁, loc', hpass, hputs, hwrite⟩
  · rw [hwrite] at hne
    exact absurd (hdirs.kept loc _ hold) hne
  · rw [hwrite] at hne ⊢
    obtain rfl : loc = loc' := by
      by_contra hloc
      exact hne (hputs.kept loc _ hloc hold)
    exact ⟨hpass, hputs⟩

/-! ## Consent -/

theorem printParagraph_cancelled :
    Console.printParagraph "[yellow]Cancelled.[/yellow]" = .ok "Cancelled.\n".toList := by
  rw [Console.printParagraph_ofString]
  exact ok_of_toOption (by decide +kernel)

/-- The command finds something at the path, and the question about it can be shown. -/
structure Asks (t : FileTree) (output : Text) (question : List Char) : Prop where
  there : t.exists? (.ofText output) = .ok true
  shown : overwriteQuestion output = Text.ofChars question

theorem asks_iff {output : Text} {question : List Char} : Asks t output question ↔
    t.exists? (.ofText output) = .ok true ∧ (overwriteQuestion output).chars = .ok question := by
  rw [Text.chars_eq_ok_iff]
  exact ⟨fun h => ⟨h.there, h.shown⟩, fun h => ⟨h.1, h.2⟩⟩

theorem initConfig_unasked {output : Text} (input : String)
    (hthere : t.exists? (.ofText output) = .ok true)
    (hmute : ∀ question, ¬ Asks t output question) :
    ∃ f, initConfig t output input = ⟨t, [], [], .failed (.unencodable f)⟩ := by
  cases hquestion : (overwriteQuestion output).chars with
  | ok question => exact absurd (asks_iff.2 ⟨hthere, hquestion⟩) (hmute question)
  | error f =>
    refine ⟨f, ?_⟩
    rw [initConfig, hthere]
    dsimp only
    rw [hquestion]

theorem initConfig_asked {output : Text} {question : List Char} (input : String)
    (h : Asks t output question) :
    ∃ dialog, question <+: dialog ∧ initConfig t output input =
      match firstDecision (inputLines input) with
      | some true => writeNew t (.ofText output) dialog
      | some false => ⟨t, dialog ++ "Cancelled.\n".toList, [], .refused⟩
      | none => ⟨t, dialog, [], .inputEnded⟩ := by
  obtain ⟨rest, hask⟩ := ask_eq question (inputLines input)
  refine ⟨question ++ rest, List.prefix_append _ _, ?_⟩
  rw [initConfig, h.there]
  dsimp only
  rw [(asks_iff.1 h).2]
  dsimp only
  rw [hask]
  cases firstDecision (inputLines input) with
  | none => rfl
  | some yes =>
    cases yes with
    | true => rfl
    | false =>
      show Outcome.printing t _ [] .refused
        (Console.printParagraph "[yellow]Cancelled.[/yellow]") = _
      rw [printParagraph_cancelled]
      rfl

/-- The ways in which a file comes to be overwritten. -/
inductive Overwrites (t : FileTree) (output : Text) (input : String) (loc : Location) : Prop
  /-- The path leads to it, and the answer to the question was yes. -/
  | agreed {question : List Char} : Asks t output question → t.locate (.ofText output) = .ok loc →
      firstDecision (inputLines input) = some true → Overwrites t output input loc
  /-- The path has led nowhere, because a directory on its way was missing that is there now. In a
  well-formed tree it must step up to lead to an old file. -/
  | detour {q : Path} {l : Location} : t.exists? (.ofText output) = .ok false →
      (initConfig t output input).tree.locate (.ofText output) = .ok loc →
      q.OnTheWay (.ofText output) → (initConfig t output input).tree.locate q = .ok l →
      t.get? l = none → (initConfig t output input).tree.get? l = some .dir →
      (WellFormed t → (".." : Text) ∈ (Path.ofText output).names) → Overwrites t output input loc

variable {output : Text}

theorem tree_initConfig_of_missing (input : String)
    (hmissing : t.exists? (.ofText output) = .ok false) :
    (initConfig t output input).tree = (Config.writeDefault t (.ofText output)).1 := by
  rw [initConfig, hmissing]
  exact tree_writeNew _ _ _

/-- A run that finds nothing changes an old file only on a detour. -/
theorem overwrites_of_missing {input : String} {loc : Location} {old : List UInt8}
    (hmissing : t.exists? (.ofText output) = .ok false) (hold : t.get? loc = some (.file old))
    (hne : (initConfig t output input).tree.get? loc ≠ some (.file old)) :
    Overwrites t output input loc := by
  have hrun := tree_initConfig_of_missing input hmissing
  rw [hrun] at hne
  obtain ⟨hpass, hputs⟩ := putsFile_of_changed hold hne
  rw [← hrun] at hputs
  -- the path did not lead to the file before, or it would have been found
  have hnot : t.locate (.ofText output) ≠ .ok loc := fun hloc => by
    rw [FileTree.exists?_eq_true_iff.2 ⟨hpass, loc, _, hloc, hold⟩] at hmissing
    cases hmissing
  rcases FileTree.locate_or_missing hputs hold with hloc | ⟨q, l, hq, hlocate, hnone, hdir⟩
  · exact absurd hloc hnot
  · refine .detour hmissing hputs.located hq hlocate hnone hdir fun hwf => ?_
    by_contra hup
    exact hnot (hputs.locate_before hwf hup hold)

/-- A run that has asked changes a file only if the answer was yes, and then the one that the path
leads to. -/
theorem overwrites_of_asks {question : List Char} {input : String} {loc : Location}
    {old : List UInt8} (hasks : Asks t output question) (hold : t.get? loc = some (.file old))
    (hne : (initConfig t output input).tree.get? loc ≠ some (.file old)) :
    Overwrites t output input loc := by
  obtain ⟨dialog, -, hrun⟩ := initConfig_asked input hasks
  rw [hrun] at hne
  cases hdecision : firstDecision (inputLines input) with
  | none =>
    rw [hdecision] at hne
    exact absurd hold hne
  | some yes =>
    rw [hdecision] at hne
    cases yes with
    | false => exact absurd hold hne
    | true =>
      have hwritten : (Config.writeDefault t (.ofText output)).1.get? loc ≠ some (.file old) :=
        fun h => hne (by rw [tree_writeNew]; exact h)
      obtain ⟨-, hputs⟩ := putsFile_of_changed hold hwritten
      obtain ⟨-, l, -, hl, -⟩ := FileTree.exists?_eq_true_iff.1 hasks.there
      -- making directories has not changed where the path leads
      have hlater := FileTree.locate_of_keepsDirs hputs.keepsDirs hl
      rw [hputs.located] at hlater
      cases hlater
      exact .agreed hasks hl hdecision

theorem isAbort_of_asks {question : List Char} (input : String) (hasks : Asks t output question) :
    ((initConfig t output input).ending.isAbort = true ↔
      firstDecision (inputLines input) ≠ some true) ∧
    ((initConfig t output input).ending.isAbort = true → (initConfig t output input).tree = t) := by
  obtain ⟨dialog, -, hrun⟩ := initConfig_asked input hasks
  rw [hrun]
  cases firstDecision (inputLines input) with
  | none => simp [Ending.isAbort]
  | some yes =>
    cases yes with
    | false => simp [Ending.isAbort]
    | true => simp [isAbort_writeNew]

theorem not_isAbort_of_not_asks (input : String) (hmute : ∀ question, ¬ Asks t output question) :
    (initConfig t output input).ending.isAbort = false := by
  cases hthere : t.exists? (.ofText output) with
  | error e => simp [initConfig, hthere, Ending.isAbort]
  | ok there =>
    cases there with
    | false => simp [initConfig, hthere, isAbort_writeNew]
    | true =>
      obtain ⟨f, hrun⟩ := initConfig_unasked input hthere hmute
      rw [hrun]
      rfl

theorem question_prefix_output {question : List Char} (input : String)
    (hasks : Asks t output question) : question <+: (initConfig t output input).output := by
  obtain ⟨dialog, hdialog, hrun⟩ := initConfig_asked input hasks
  rw [hrun]
  cases firstDecision (inputLines input) with
  | none => exact hdialog
  | some yes =>
    cases yes with
    | false => exact hdialog.trans (List.prefix_append _ _)
    | true => exact hdialog.trans (isAbort_writeNew t _ dialog).2

/-- **No file is overwritten without consent, but for a detour.** On any tree, for any path and any
input, every file keeps its bytes, however the run ends, unless the path leads to it and the
question was answered by yes, or it was reached on a detour. The question is asked if the path leads
to anything; if it cannot be shown, the run fails. The run aborts exactly if it has asked and the
first line that decides is no yes, or none decides; then the tree is the same. -/
theorem init_keeps_files (t : FileTree) (output : Text) (input : String) :
    (∀ loc old, t.get? loc = some (.file old) →
      (initConfig t output input).tree.get? loc = some (.file old) ∨
        Overwrites t output input loc) ∧
    (∀ question, Asks t output question → question <+: (initConfig t output input).output) ∧
    (t.exists? (.ofText output) = .ok true → (∀ question, ¬ Asks t output question) →
      ∃ f, initConfig t output input = ⟨t, [], [], .failed (.unencodable f)⟩) ∧
    ((initConfig t output input).ending.isAbort = true ↔
      (∃ question, Asks t output question) ∧ firstDecision (inputLines input) ≠ some true) ∧
    ((initConfig t output input).ending.isAbort = true → (initConfig t output input).tree = t) := by
  refine ⟨fun loc old hold => or_iff_not_imp_left.2 fun hne => ?_,
    fun _ => question_prefix_output input, initConfig_unasked input, ?_⟩
  · cases hthere : t.exists? (.ofText output) with
    | error e =>
      rw [initConfig, hthere] at hne
      exact absurd hold hne
    | ok there =>
      cases there with
      | false => exact overwrites_of_missing hthere hold hne
      | true =>
        by_cases hasks : ∃ question, Asks t output question
        · exact overwrites_of_asks hasks.choose_spec hold hne
        · obtain ⟨f, hrun⟩ := initConfig_unasked input hthere (not_exists.1 hasks)
          rw [hrun] at hne
          exact absurd hold hne
  · by_cases hasks : ∃ question, Asks t output question
    · have h := isAbort_of_asks input hasks.choose_spec
      exact ⟨h.1.trans (and_iff_right hasks).symm, h.2⟩
    · have h := not_isAbort_of_not_asks input (not_exists.1 hasks)
      simp [h, hasks]

def settled : FileTree where
  current := ["work"]
  items := [(["work", "b.yaml"], .file (Text.Utf8.encode "generation: {}\n"))]

/-- The path steps up out of a directory that is missing: nobody is asked. -/
theorem init_detour_overwrites :
    settled.get? ["work", "b.yaml"] = some (.file (Text.Utf8.encode "generation: {}\n")) ∧
    settled.exists? (.ofText "a/../b.yaml") = .ok false ∧
    firstDecision (inputLines "n\n") = some false ∧
    (initConfig settled "a/../b.yaml" "n\n").tree.get? ["work", "b.yaml"] =
      some (.file (Text.Utf8.encode Config.defaultText)) ∧
    Text.Utf8.encode Config.defaultText ≠ Text.Utf8.encode "generation: {}\n" := by
  have hthere : settled.exists? (.ofText "a/../b.yaml") = .ok false :=
    ok_of_toOption (by decide)
  have hwritten : (Config.writeDefault settled (.ofText "a/../b.yaml")).1.get?
        ["work", "b.yaml"] = some (.file (Text.Utf8.encode Config.defaultText)) ∧
      Text.Utf8.encode Config.defaultText ≠ Text.Utf8.encode "generation: {}\n" := by
    decide +kernel
  refine ⟨by decide, hthere, by decide, ?_, hwritten.2⟩
  rw [tree_initConfig_of_missing _ hthere]
  exact hwritten.1

end CommandLine

end BindingIndex
