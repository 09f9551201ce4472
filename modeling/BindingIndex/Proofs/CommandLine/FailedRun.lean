import BindingIndex.Proofs.ClassFile.Frame
import BindingIndex.Proofs.CommandLine.Completed
import BindingIndex.Proofs.CommandLine.Preview
import BindingIndex.Proofs.Config.Valid
import BindingIndex.Proofs.FileTree.Placement

/-!
# Runs that fail

A generate run changes files in its last step only. That is a write and the message about it, which
is always shown for a target that is Unicode and has no opening bracket
(`paragraph_writtenMessage`). So a run that fails has not come that far, or the write itself has
failed, after making some directories at most. Then no file differs, and whatever could be read is
read the same. But a write opens its file before it encodes the source, and a source with a
surrogate leaves it empty (`LeavesEmpty`): `generate_failed`, `failed_generate_keeps_files`.
-/

namespace BindingIndex

namespace FileTree

def SameFiles (t t' : FileTree) : Prop :=
  ∀ loc bytes, t'.get? loc = some (.file bytes) ↔ t.get? loc = some (.file bytes)

theorem AddsDirs.sameFiles {t t' : FileTree} {p : Path} (h : AddsDirs p t t') :
    SameFiles t t' := by
  intro loc bytes
  constructor
  · intro hfile
    rwa [h.eq_of_file (.inr hfile)] at hfile
  · exact h.kept loc _

theorem AddsDirs.read {t t' : FileTree} {p q : Path} {bytes : List UInt8} (h : AddsDirs p t t')
    (hread : t.read q = .ok bytes) : t'.read q = .ok bytes := by
  obtain ⟨hnul, hlook⟩ := read_ok_iff.1 hread
  obtain ⟨loc, hloc, hfile⟩ := lookup_ok_iff.1 hlook
  have hloc' := locate_of_keepsDirs h.keepsDirs hloc
  exact read_ok_iff.2 ⟨hnul, lookup_ok_iff.2 ⟨loc, hloc', h.kept loc _ hfile⟩⟩

end FileTree

namespace CommandLine

open FileTree (AddsDirs PutsFile SameFiles)

variable {t : FileTree}

/-! ## What a run that fails has done -/

def Prepared.target (p : Prepared) : Path :=
  ClassFile.target p.config.outputDir p.config.generation.packageName

/-- The message about a target is shown: its path is Unicode and has no opening bracket. -/
def IsPlainTarget (target : Path) : Prop :=
  target.toText.IsUnicode ∧ CodePoint.char '[' ∉ target.toText

/-- **Storing a source succeeds** once it is written, for a plain target. -/
theorem store_of_write {t' : FileTree} {p : Prepared} {source : Text} {w : ClassFile.Written}
    (hplain : IsPlainTarget p.target)
    (hw : ClassFile.write t p.config.outputDir p.config.generation.packageName source =
      (t', .ok w)) (verbose : Bool) (events : List Event) :
    ∃ shown, Console.printParagraph (writtenMarkup w (distinct p.names)) = .ok shown ∧
      store t verbose events p source =
        ⟨t', shown, shownEvents verbose (events ++ [writtenEvent w]), .success⟩ := by
  obtain ⟨path, hpath⟩ := Text.isUnicode_iff_exists.1 hplain.1
  have hbracket : '[' ∉ path.toList := by
    rw [← Text.char_mem_ofString, ← hpath]
    exact hplain.2
  have htext : w.path.toText = path := by rw [(ClassFile.read_of_write_ok hw).1]; exact hpath
  obtain ⟨shown, hshown⟩ := paragraph_writtenMessage hbracket w.changed (distinct p.names)
  have hprint : Console.printParagraph (writtenMarkup w (distinct p.names)) = .ok shown := by
    rw [writtenMarkup_eq htext, Console.printParagraph_ofString, hshown]
    rfl
  refine ⟨shown, hprint, ?_⟩
  rw [store_of_write_ok hw, hprint]
  rfl

/-- The source has surrogates, and its target, which was not found, has become an empty file.
Nothing was at its location unless the target has a step up in it: that may lead there only once the
directories before it are made. -/
structure LeavesEmpty (t : FileTree) (p : Prepared) (source : Text) (t' : FileTree)
    (loc : Location) : Prop where
  stray : ¬ source.IsUnicode
  notFound : t.exists? p.target = .ok false
  puts : PutsFile p.target [] t t' loc
  free : FileTree.WellFormed t → (".." : Text) ∉ p.target.names → t.get? loc = none

theorem of_leaves {p : Prepared} {source : Text} {t' : FileTree} {e : FileError}
    (h : ClassFile.Leaves p.config.outputDir p.config.generation.packageName source t t' e) :
    (∃ q, AddsDirs q t t') ∨ ∃ loc, LeavesEmpty t p source t' loc := by
  rcases h with hdirs | ⟨f, t₁, hs, -, hnew, hdirs, hw⟩
  · exact .inl ⟨_, hdirs⟩
  · have hp : p.target.Passable := (FileTree.write_ok_iff.1 hw).1
    obtain ⟨loc, hput⟩ := (hdirs.of_onTheWay (ClassFile.parent_onTheWay _)).putsFile hw
    have hstray : ¬ source.IsUnicode := by
      intro hu
      obtain ⟨s, rfl⟩ := Text.isUnicode_iff_exists.1 hu
      rw [Text.Utf8.encodeText_ofString] at hs
      cases hs
    refine .inr ⟨loc, hstray, hnew, hput, fun hwf hup => ?_⟩
    cases hi : t.get? loc with
    | none => rfl
    | some item =>
      have hfound := FileTree.exists?_of_item hwf hp hup hput.current hput.located hi
      rw [Prepared.target, hnew] at hfound
      cases hfound

theorem store_failed {verbose : Bool} {events : List Event} {p : Prepared} {source : Text}
    (hplain : IsPlainTarget p.target)
    (hfail : (store t verbose events p source).ending.exitCode ≠ 0) :
    (∃ q, AddsDirs q t (store t verbose events p source).tree) ∨
      ∃ loc, LeavesEmpty t p source (store t verbose events p source).tree loc := by
  have hwritten : ∀ t' w, ClassFile.write t p.config.outputDir
      p.config.generation.packageName source ≠ (t', .ok w) := by
    intro t' w hw
    obtain ⟨shown, -, hstore⟩ := store_of_write hplain hw verbose events
    rw [hstore] at hfail
    exact hfail rfl
  rcases ClassFile.write_cases t p.config.outputDir p.config.generation.packageName source with
    ⟨-, -, -, hwrite⟩ | ⟨t₁, e, hleaves, hwrite⟩ | ⟨-, t₁, t₂, -, -, -, -, hwrite⟩
  · exact absurd hwrite (hwritten _ _)
  · rw [store, hwrite]
    exact of_leaves hleaves
  · exact absurd hwrite (hwritten _ _)

/-- The target of a run that gets as far as that is plain. -/
def PlainTarget (t : FileTree) (o : Options) : Prop :=
  ∀ c, Config.resolve t o = .ok c →
    IsPlainTarget (ClassFile.target c.outputDir c.generation.packageName)

/-- **A run that fails** has made some directories at most, or left an empty file. -/
theorem generate_failed {r : GenerateRequest} (hplain : PlainTarget t r.options)
    (hfail : (generate t r).ending.exitCode ≠ 0) :
    (∃ q, AddsDirs q t (generate t r).tree) ∨
      ∃ events p source loc, prepare t r.options = (events, .ok p) ∧
        ClassText.render p.names p.config.generation = .ok source ∧
        LeavesEmpty t p source (generate t r).tree loc := by
  have hsame : ∀ t', t' = t → ∃ q, AddsDirs q t t' := by
    rintro t' rfl
    exact ⟨⟨.relative, []⟩, .refl _ t'⟩
  cases hp : prepare t r.options with
  | mk events prepared =>
    cases prepared with
    | error f => exact .inl (hsame _ (by rw [generate, hp]; exact tree_refuse _ _ _))
    | ok p =>
      -- from here on the configuration is the one that the target was taken from
      cases hs : ClassText.render p.names p.config.generation with
      | error f =>
        refine .inl (hsame _ ?_)
        rw [generate, hp]
        dsimp only
        rw [hs]
        exact tree_refuse _ _ _
      | ok source =>
        cases hdry : r.dryRun with
        | true => exact .inl (hsame _ ((delivers_of_render hp hs).printed hdry).1)
        | false =>
          rw [generate_eq_store hp hs hdry] at hfail ⊢
          have htarget : IsPlainTarget p.target := hplain _ (resolve_of_prepare hp)
          refine (store_failed htarget hfail).imp_right ?_
          rintro ⟨loc, hloc⟩
          exact ⟨events, p, source, loc, rfl, hs, hloc⟩

/-- **What a generate run leaves that fails.** On any tree, let a command line ask for generation,
if it can be understood at all, and let the target that it leads to, if it gets that far, be plain.
If it ends with an exit code other than zero, whatever went wrong, the files are those from before,
with the same bytes, and every path that led to a file still does. There is one exception: a run
whose source has surrogates may leave its target as an empty file, where nothing was found before.
-/
theorem failed_generate_keeps_files {args : List Text} {input : String}
    (hcommand : ∀ c, Command.ofArguments args = .ok c →
      ∃ r, c = .generate r ∧ PlainTarget t r.options)
    (hfail : (run t args input).ending.exitCode ≠ 0) :
    (SameFiles t (run t args input).tree ∧
      ∀ p bytes, t.read p = .ok bytes → (run t args input).tree.read p = .ok bytes) ∨
    ∃ r events p source loc, Command.ofArguments args = .ok (.generate r) ∧
      prepare t r.options = (events, .ok p) ∧
      ClassText.render p.names p.config.generation = .ok source ∧
      LeavesEmpty t p source (run t args input).tree loc := by
  have hkept : ∀ {t'}, (∃ q, AddsDirs q t t') →
      SameFiles t t' ∧ ∀ p bytes, t.read p = .ok bytes → t'.read p = .ok bytes :=
    fun ⟨_, hq⟩ => ⟨hq.sameFiles, fun _ _ hread => hq.read hread⟩
  rw [run] at hfail ⊢
  split at hfail
  · exact .inl (hkept ⟨⟨.relative, []⟩, .refl _ t⟩)
  · rename_i c hc
    obtain ⟨r, rfl, hplain⟩ := hcommand c hc
    refine (generate_failed hplain hfail).imp hkept ?_
    rintro ⟨events, p, source, loc, hp, hs, hempty⟩
    exact ⟨r, events, p, source, loc, hc, hp, hs, hempty⟩

instance (target : Path) : Decidable (IsPlainTarget target) := inferInstanceAs (Decidable (_ ∧ _))

/-- A command line whose output root is the class file, by way of a directory that is missing. -/
def detourLine : List Text :=
  ["generate", "-p", "lib", "--property", "a", "-o", "new/../gen/app/BR.java"]

def detourRequest : GenerateRequest :=
  ⟨⟨none, some "lib", ["a"], none, none, some "new/../gen/app/BR.java"⟩, false, false⟩

theorem ofArguments_detourLine : Command.ofArguments detourLine = .ok (.generate detourRequest) :=
  ok_of_toOption (by decide +kernel)

theorem resolve_detourRequest (t : FileTree) : Config.resolve t detourRequest.options =
    .ok (Config.alone "lib" detourRequest.options) :=
  have hgiven : Config.given detourRequest.options.package = some ("lib" : Text) := by decide
  (Config.ofArguments_toArguments hgiven).trans (if_pos (by decide))

theorem plainTarget_detourRequest (t : FileTree) : PlainTarget t detourRequest.options := by
  intro c hc
  rw [resolve_detourRequest] at hc
  cases hc
  decide +kernel

/-- The missing directory is made before the run fails. -/
theorem failed_generate_keeps_files_detour :
    (∀ c, Command.ofArguments detourLine = .ok c →
      ∃ r, c = .generate r ∧ PlainTarget stale r.options) ∧
    (run stale detourLine "").ending.exitCode ≠ 0 ∧
    (run stale detourLine "").tree.get? ["work", "new"] = some .dir ∧
    SameFiles stale (run stale detourLine "").tree ∧
    ∀ p bytes, stale.read p = .ok bytes → (run stale detourLine "").tree.read p = .ok bytes := by
  have hcommand : ∀ c, Command.ofArguments detourLine = .ok c →
      ∃ r, c = .generate r ∧ PlainTarget stale r.options := fun c hc =>
    ⟨detourRequest, by rw [ofArguments_detourLine] at hc; exact (Except.ok.inj hc).symm,
      plainTarget_detourRequest stale⟩
  have hrun : (run stale detourLine "").ending.exitCode ≠ 0 ∧
      (run stale detourLine "").tree.get? ["work", "new"] = some .dir := by decide +kernel
  refine ⟨hcommand, hrun.1, hrun.2, ?_⟩
  -- there is no surrogate in the source
  refine (failed_generate_keeps_files hcommand hrun.1).resolve_right ?_
  rintro ⟨r, events, p, source, loc, hargs, hp, hs, hempty⟩
  obtain ⟨rfl⟩ : r = detourRequest := by
    rw [ofArguments_detourLine] at hargs
    cases hargs
    rfl
  have hprepared : (prepare stale detourRequest.options).2.toOption =
      some ⟨Config.alone "lib" detourRequest.options, ["a"]⟩ := by decide +kernel
  rw [hp] at hprepared
  obtain rfl := Option.some.inj hprepared
  exact hempty.stray (ClassText.isUnicode_render (by decide) (by decide) hs)

/-- A tree with a configuration file, in which an escape writes a surrogate. -/
def configured : FileTree where
  current := ["work"]
  items := [(["work", "a.yaml"], .file (Text.Utf8.encode
    "generation: \x7bpackage_name: p\x7d\nproperties: [\"\\udcff\"]\n"))]

def strayConfig : Config :=
  ⟨⟨"p", true⟩, Config.defaultOutputDir, [[.surrogate ⟨0x4FF, by decide⟩]], none⟩

def configuredRequest : GenerateRequest :=
  ⟨⟨some "a.yaml", none, [], none, none, none⟩, false, false⟩

/-- A name with a surrogate: the run fails, and leaves an empty file that was not there. -/
theorem failed_generate_new_file :
    Command.ofArguments ["generate", "-c", "a.yaml"] = .ok (.generate configuredRequest) ∧
    PlainTarget configured configuredRequest.options ∧
    (run configured ["generate", "-c", "a.yaml"] "").ending.exitCode = 1 ∧
    (run configured ["generate", "-c", "a.yaml"] "").ending.complaint =
      "'utf-8' codec can't encode character '\\udcff' in position 95: surrogates not allowed" ∧
    configured.get? ["work", "generated", "p", "BR.java"] = none ∧
    (run configured ["generate", "-c", "a.yaml"] "").tree.get?
      ["work", "generated", "p", "BR.java"] = some (.file []) := by
  have hplain : PlainTarget configured configuredRequest.options := by
    intro c hc
    have hresolve : (Config.resolve configured configuredRequest.options).toOption =
        some strayConfig := by decide +kernel
    rw [hc] at hresolve
    obtain rfl := Option.some.inj hresolve
    decide +kernel
  refine ⟨ok_of_toOption (by decide +kernel), hplain, ?_⟩
  decide +kernel

end CommandLine

end BindingIndex
