import BindingIndex.CommandLine.Touched
import BindingIndex.Proofs.CommandLine.FailedRun
import BindingIndex.Proofs.CommandLine.Preview
import BindingIndex.Proofs.PropertyList.RoundTrip

/-!
# Running again

A run that succeeds changes the tree that the next one starts from: directories are new, so paths
may lead somewhere that led nowhere before, and the class file is. But what a run is prepared from
are the bytes of the files that it reads and nothing else (`prepare_of_reads`), and these are still
read where the target is none of them (`FileTree.PutsFile.read`). So the same source is rendered,
and it is at its target already: `generate_again`.
-/

namespace BindingIndex

/-! ## What a run is prepared from -/

namespace Config

variable {t t' : FileTree} {c : Config}

theorem load_of_reads {path : Path} (h : load t path = .ok c)
    (hreads : ∀ bytes, t.read path = .ok bytes → t'.read path = .ok bytes) :
    load t' path = .ok c := by
  obtain ⟨bytes, own, hread, hown, rfl⟩ := load_ok_iff.1 h
  exact load_ok_iff.2 ⟨bytes, own, hreads bytes hread, hown, rfl⟩

theorem resolve_of_reads {o : Options} (h : resolve t o = .ok c)
    (hreads : ∀ path, givenPath o.config = some path → ∀ bytes, t.read path = .ok bytes →
      t'.read path = .ok bytes) :
    resolve t' o = .ok c := by
  rw [givenPath] at hreads
  rw [resolve] at h ⊢
  split at h
  · rename_i path hpath
    obtain ⟨own, hload, rfl⟩ := map_eq_ok_iff.1 h
    rw [load_of_reads hload (hreads _ (by rw [hpath]; rfl))]
    rfl
  · exact h

theorem propertyNames_of_reads {names : List Text} (h : propertyNames t c = .ok names)
    (hreads : ∀ path, c.propertiesFile = some path → ∀ bytes, t.read path = .ok bytes →
      t'.read path = .ok bytes) :
    propertyNames t' c = .ok names := by
  rw [propertyNames] at h ⊢
  split at h
  · exact h
  · rename_i path hpath
    split at h
    · rename_i listed hlisted
      obtain ⟨text, hread, hw⟩ := PropertyList.read_eq_ok_iff.1 hlisted
      rw [PropertyList.read_eq_ok_iff.2 ⟨text, hreads path hpath _ hread, hw⟩]
      exact h
    · cases h

end Config

namespace CommandLine

open Config (givenPath)

variable {t t' : FileTree}

/-- **A run is prepared from the bytes of the files that it reads**, and from nothing else. -/
theorem prepare_of_reads {o : Options} {events : List Event} {p : Prepared}
    (h : prepare t o = (events, .ok p))
    (hreads : ∀ q ∈ touchedBy t o false, ∀ bytes, t.read q = .ok bytes → t'.read q = .ok bytes) :
    prepare t' o = (events, .ok p) := by
  have hc := resolve_of_prepare h
  have htouched : touchedBy t o false =
      (givenPath o.config).toList ++ (p.config.propertiesFile.toList ++ []) := by
    rw [touchedBy, hc]
    rfl
  rw [htouched, List.append_nil] at hreads
  have hc' : Config.resolve t' o = .ok p.config := by
    refine Config.resolve_of_reads hc fun path hpath => hreads path ?_
    exact List.mem_append_left _ (Option.mem_toList.2 hpath)
  rw [prepare, hc] at h
  rw [prepare, hc']
  dsimp only at h ⊢
  split at h
  · cases h
  · rename_i names hnames
    have hnames' : Config.propertyNames t' p.config = .ok names := by
      refine Config.propertyNames_of_reads hnames fun path hpath => hreads path ?_
      exact List.mem_append_right _ (Option.mem_toList.2 hpath)
    rw [hnames']
    exact h

/-! ## The second run -/

/-- In the tree `t'` that a run leaves behind, its target is none of the files that it reads. -/
def OwnTarget (t t' : FileTree) (o : Options) : Prop :=
  ∀ c, Config.resolve t o = .ok c → ∀ q ∈ touchedBy t o false,
    ¬ t'.Meet q (ClassFile.target c.outputDir c.generation.packageName)

/-- **A run that succeeded has nothing left to do.** On any tree, let a run that is no preview
succeed, with a target that is plain, which is to say that it can be reported, and is none of the
files that it reads. Then the same command line, run on the tree that it left, succeeds, says that
the target is up to date, and leaves that tree as it is. -/
theorem generate_again {args : List Text} {input : String} {r : GenerateRequest}
    (hargs : Command.ofArguments args = .ok (.generate r)) (hr : r.dryRun = false)
    (hplain : PlainTarget t r.options) (hok : (run t args input).ending.exitCode = 0)
    (hown : OwnTarget t (run t args input).tree r.options) :
    ∃ c path shown events, Config.resolve t r.options = .ok c ∧
      path = ClassFile.target c.outputDir c.generation.packageName ∧
      Console.printParagraph ("[dim]" ++ path.toText ++ " is up to date[/dim]") = .ok shown ∧
      run (run t args input).tree args input =
        ⟨(run t args input).tree, shown, shownEvents r.verbose (events ++ [.current path]),
          .success⟩ := by
  have hrun : ∀ t, run t args input = generate t r := fun t => by rw [run, hargs]; rfl
  rw [hrun] at hok hown ⊢
  rw [hrun]
  obtain ⟨events, p, source, hp, hs⟩ := render_of_success hok
  have hc := resolve_of_prepare hp
  have hstore := generate_eq_store hp hs hr
  rw [hstore] at hok
  obtain ⟨t', w, hwrite⟩ := write_of_store_success hok
  rw [hstore, tree_store, hwrite] at hown ⊢
  -- the first run has put the file, so all that it read is still there
  obtain ⟨_, loc, -, hput⟩ := ClassFile.putsFile_of_write hwrite
  obtain ⟨-, bytes, hbytes, hread⟩ := ClassFile.read_of_write_ok hwrite
  have hp' := prepare_of_reads hp fun q hq bytes hread => hput.read (hown _ hc q hq) hread
  have hcurrent := (ClassFile.write_of_read hread hbytes).1 rfl
  obtain ⟨shown, hshown, hstored⟩ := store_of_write (hplain _ hc) hcurrent r.verbose
    (events ++ [.rendering p.config.generation.packageName (distinct p.names)])
  exact ⟨_, _, shown, _, hc, rfl, hshown, (generate_eq_store hp' hs hr).trans hstored⟩

/-- A tree with a list of names where the class file will be. -/
def nook : FileTree where
  current := ["work"]
  items := [(["work", "gen"], .dir), (["work", "gen", "app"], .dir),
    (["work", "gen", "app", "names"], .file (Text.Utf8.encode "a\n"))]

/-- A command line that reads the list, and whose target is beside it by way of a directory that is
missing. -/
def nookLine : List Text :=
  ["generate", "-p", "app", "-f", "gen/app/names", "-o", "new/../gen"]

def nookRequest : GenerateRequest :=
  ⟨⟨none, some "app", [], some "gen/app/names", none, some "new/../gen"⟩, false, false⟩

def nookBuilt : FileTree where
  current := ["work"]
  items := [(["work", "gen"], .dir), (["work", "gen", "app"], .dir),
    (["work", "gen", "app", "names"], .file (Text.Utf8.encode "a\n")), (["work", "new"], .dir),
    (["work", "gen", "app", "BR.java"], .file (Text.Utf8.encode ("package app;\n" ++
      "public class BR \x7b\n    public static final int _all = 0;\n" ++
      "    public static final int a = 1;\n\x7d\n")))]

theorem run_nookLine : (run nook nookLine "").ending.exitCode = 0 ∧
    (run nook nookLine "").tree = nookBuilt := by decide +kernel

theorem resolve_nookRequest (t : FileTree) : Config.resolve t nookRequest.options =
    .ok (Config.alone "app" nookRequest.options) :=
  have hgiven : Config.given nookRequest.options.package = some ("app" : Text) := by decide
  (Config.ofArguments_toArguments hgiven).trans (if_pos (by decide))

theorem plainTarget_nookRequest (t : FileTree) : PlainTarget t nookRequest.options := by
  intro c hc
  rw [resolve_nookRequest] at hc
  cases hc
  decide +kernel

theorem ownTarget_nookRequest : OwnTarget nook nookBuilt nookRequest.options := by
  intro c hc q hq
  rw [touchedBy, hc] at hq
  rw [resolve_nookRequest] at hc
  cases hc
  obtain rfl := List.mem_singleton.1 hq
  rintro ⟨loc, hlist, htarget⟩
  have hlist' : nookBuilt.locate (.ofText "gen/app/names") =
      .ok ["work", "gen", "app", "names"] := ok_of_toOption (by decide +kernel)
  have htarget' : nookBuilt.locate (ClassFile.target (.ofText "new/../gen") "app") =
      .ok ["work", "gen", "app", "BR.java"] := ok_of_toOption (by decide +kernel)
  cases hlist'.symm.trans hlist
  exact absurd (htarget'.symm.trans htarget) (by simp)

/-- The second run finds the directory that the first one has made. -/
theorem generate_again_nook :
    Command.ofArguments nookLine = .ok (.generate nookRequest) ∧ nookRequest.dryRun = false ∧
    PlainTarget nook nookRequest.options ∧ (run nook nookLine "").ending.exitCode = 0 ∧
    OwnTarget nook (run nook nookLine "").tree nookRequest.options ∧
    (run nook nookLine "").tree.get? ["work", "new"] = some .dir ∧
    ∃ c path shown events, Config.resolve nook nookRequest.options = .ok c ∧
      path = ClassFile.target c.outputDir c.generation.packageName ∧
      Console.printParagraph ("[dim]" ++ path.toText ++ " is up to date[/dim]") = .ok shown ∧
      run (run nook nookLine "").tree nookLine "" =
        ⟨(run nook nookLine "").tree, shown,
          shownEvents nookRequest.verbose (events ++ [.current path]), .success⟩ :=
  have hargs : Command.ofArguments nookLine = .ok (.generate nookRequest) :=
    ok_of_toOption (by decide +kernel)
  have hown : OwnTarget nook (run nook nookLine "").tree nookRequest.options := by
    rw [run_nookLine.2]
    exact ownTarget_nookRequest
  ⟨hargs, rfl, plainTarget_nookRequest nook, run_nookLine.1, hown,
    by rw [run_nookLine.2]; decide,
    generate_again hargs rfl (plainTarget_nookRequest nook) run_nookLine.1 hown⟩

end CommandLine

end BindingIndex
