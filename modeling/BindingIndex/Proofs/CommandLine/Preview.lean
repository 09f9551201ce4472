import BindingIndex.CommandLine.Run
import BindingIndex.Proofs.ClassText.Rendered
import BindingIndex.Proofs.CommandLine.Delivery
import BindingIndex.Proofs.Results

/-!
# Previews

A preview changes no file. Where the run itself succeeds, the preview prints what the run leaves in
the class file, whether that was written now or was there already: both deliver one source
(`delivers_of_render`), and the screen shows it as it is unless a name or the package holds an
escape character (`escape_not_mem_of_render`).

`Previews dry real r` relates two command lines that ask for one and the same generation `r`, the
first only for a preview. `previews_cons` gives such a pair for every command line.
-/

namespace BindingIndex.CommandLine

variable {t : FileTree}

/-! ## Runs that succeed -/

theorem exitCode_refuse (t : FileTree) (events : List Event) (f : Failure) :
    (refuse t events f).ending.exitCode = 1 := by
  rw [refuse]
  split
  · cases Console.printParagraph (errorMarkup f.message) <;> rfl
  · rfl

theorem render_of_success {r : GenerateRequest} (h : (generate t r).ending.exitCode = 0) :
    ∃ events p source, prepare t r.options = (events, .ok p) ∧
      ClassText.render p.names p.config.generation = .ok source := by
  rw [generate] at h
  split at h
  · rw [exitCode_refuse] at h
    cases h
  · rename_i events p hp
    dsimp only at h
    split at h
    · rw [exitCode_refuse] at h
      cases h
    · rename_i source hs
      exact ⟨events, p, source, hp, hs⟩

theorem write_of_store_success {verbose : Bool} {events : List Event} {p : Prepared}
    {source : Text} (h : (store t verbose events p source).ending.exitCode = 0) :
    ∃ t' w, ClassFile.write t p.config.outputDir p.config.generation.packageName source =
      (t', .ok w) := by
  rw [store] at h
  split at h
  · cases h
  · rename_i hw
    exact ⟨_, _, hw⟩

/-! ## What is shown of a source -/

/-- No escape character stands in the package of a run or in one of its names. -/
def Prepared.Unescaped (p : Prepared) : Prop :=
  CodePoint.char '\x1b' ∉ p.config.generation.packageName ∧
    ∀ n ∈ p.names, CodePoint.char '\x1b' ∉ n

theorem escape_not_mem_of_render {p : Prepared} (hp : p.Unescaped) {source : Text}
    (hs : ClassText.render p.names p.config.generation = .ok source) :
    CodePoint.char '\x1b' ∉ source := by
  obtain ⟨-, rfl⟩ := ClassText.of_render_eq_ok hs
  intro h
  rcases ClassText.mem_sourceText_of_lt_blank (by decide) h with hlf | hpkg | ⟨e, he, hname⟩
  · exact absurd hlf (by decide)
  · exact hp.1 hpkg
  · exact hp.2 _ (ClassText.mem_declared_iff.1 ⟨e, he, rfl⟩) hname

/-! ## Command lines -/

/-- The command line `real` asks for the generation `r`, and `dry` for a preview of it. -/
structure Previews (dry real : List Text) (r : GenerateRequest) : Prop where
  real : Command.ofArguments real = .ok (.generate r)
  writes : r.dryRun = false
  dry : Command.ofArguments dry = .ok (.generate { r with dryRun := true })

def Command.preview : Command → Command
  | generate r => generate { r with dryRun := true }
  | c => c

/-- **The preview of a generation** is asked for by one option, in front of all others. -/
theorem ofArguments_dryRun (args : List Text) :
    Command.ofArguments ("generate" :: "--dry-run" :: args) =
      (Command.ofArguments ("generate" :: args)).map Command.preview := by
  have hread : readOption generateSpecs "--dry-run" = .ok ⟨[⟨.dryRun, []⟩], none⟩ := by
    decide
  have hargs : readArguments generateSpecs ("--dry-run" :: args) =
      (readArguments generateSpecs args).map (Given.withOptions [⟨.dryRun, []⟩]) := by
    rw [readArguments, if_neg (by decide), if_pos (by decide), hread]
  have hname : ∀ args, Command.ofArguments ("generate" :: args) =
      (readOptions generateSpecs args).map fun g =>
        .generate ⟨optionsOf g, g.has .dryRun, g.has .verbose⟩ := fun args => rfl
  rw [hname, hname, readOptions, readOptions, hargs]
  cases readArguments generateSpecs args with
  | error e => rfl
  | ok g =>
    by_cases hextra : g.extra = []
    · have hwith : (g.withOptions [⟨.dryRun, []⟩]).extra = [] := hextra
      simp only [Except.map, if_pos hextra, if_pos hwith]
      rfl
    · have hwith : (g.withOptions [⟨.dryRun, []⟩]).extra ≠ [] := hextra
      simp only [Except.map, if_neg hextra, if_neg hwith]
      rfl

theorem previews_cons {args : List Text} {r : GenerateRequest}
    (h : Command.ofArguments ("generate" :: args) = .ok (.generate r)) (hr : r.dryRun = false) :
    Previews ("generate" :: "--dry-run" :: args) ("generate" :: args) r := by
  refine ⟨h, hr, ?_⟩
  rw [ofArguments_dryRun, h]
  rfl

/-! ## The preview -/

theorem tree_generate_of_dryRun {r : GenerateRequest} (hr : r.dryRun = true) :
    (generate t r).tree = t := by
  rw [generate]
  split
  · exact tree_refuse _ _ _
  · dsimp only
    split
    · exact tree_refuse _ _ _
    · rw [if_pos hr]
      split <;> rfl

/-- **A preview is faithful.** On any tree, a command line that asks for a preview, if it can be
understood at all, leaves the tree as it is, however it ends. Let it preview a run that succeeds, in
which no escape character, let alone another control character, stands in the package or in a name.
Then the preview succeeds, and the UTF-8 bytes of what it prints are those that the run leaves at
its target, be the file new, rewritten or untouched. -/
theorem preview_faithful {dry : List Text} {input : String}
    (hdry : ∀ c, Command.ofArguments dry = .ok c → ∃ r, c = .generate r ∧ r.dryRun = true) :
    (run t dry input).tree = t ∧
    ∀ real r, Previews dry real r → (run t real input).ending.exitCode = 0 →
      (∀ events p, prepare t r.options = (events, .ok p) → p.Unescaped) →
      (run t dry input).ending.exitCode = 0 ∧
      ∃ c, Config.resolve t r.options = .ok c ∧
        (run t real input).tree.read
          (ClassFile.target c.outputDir c.generation.packageName) =
            .ok (Text.Utf8.encodeChars (run t dry input).output) := by
  constructor
  · rw [run]
    split
    · rfl
    · rename_i c hc
      obtain ⟨r, rfl, hr⟩ := hdry c hc
      exact tree_generate_of_dryRun hr
  · intro real r hpair hok hplain
    have hreal : run t real input = generate t r := by rw [run, hpair.real]; rfl
    have hpreview : run t dry input = generate t { r with dryRun := true } := by
      rw [run, hpair.dry]
      rfl
    rw [hreal] at hok ⊢
    rw [hpreview]
    obtain ⟨events, p, source, hp, hs⟩ := render_of_success hok
    have hprinted := ((delivers_of_render (r := { r with dryRun := true }) hp hs).printed rfl).2
    have hwritten := (delivers_of_render hp hs).written hpair.writes
    -- the run has come to its end, so the write has succeeded
    rw [generate_eq_store hp hs hpair.writes] at hok
    obtain ⟨t', w, hw⟩ := write_of_store_success hok
    obtain ⟨bytes, hbytes, hread⟩ := hwritten.2 w (congrArg Prod.snd hw)
    obtain ⟨hsuccess, -, hshown⟩ := hprinted (Text.Utf8.isUnicode_of_encodeText hbytes)
    rw [← hshown (escape_not_mem_of_render (hplain events p hp) hs),
      Text.Utf8.encodeText, Text.chars_ofChars] at hbytes
    refine ⟨by rw [hsuccess]; rfl, p.config, resolve_of_prepare hp, ?_⟩
    rw [hread, ← Except.ok.inj hbytes]

/-- A tree with a class file that is out of date. -/
def stale : FileTree where
  current := ["work"]
  items := [(["work", "gen"], .dir), (["work", "gen", "app"], .dir),
    (["work", "gen", "app", "BR.java"], .file (Text.Utf8.encode "package app;\n"))]

/-- Arguments that lead to the class file by way of a directory that is missing. -/
def staleLine : List Text :=
  ["-p", "app", "--property", "é", "--property", "b", "--no-final", "-o", "new/../gen"]

def staleRequest : GenerateRequest :=
  ⟨⟨none, some "app", ["é", "b"], none, some false, some "new/../gen"⟩, false, false⟩

theorem previews_staleLine :
    Previews ("generate" :: "--dry-run" :: staleLine) ("generate" :: staleLine) staleRequest :=
  previews_cons (ok_of_toOption (by decide +kernel)) rfl

theorem prepare_staleRequest : (prepare stale staleRequest.options).2 =
    .ok ⟨⟨⟨"app", false⟩, ⟨.relative, ["new", "..", "gen"]⟩, ["é", "b"], none⟩, ["é", "b"]⟩ :=
  ok_of_toOption (by decide +kernel)

/-- The preview of a run that rewrites the class file. -/
theorem preview_faithful_stale :
    (∀ c, Command.ofArguments ("generate" :: "--dry-run" :: staleLine) = .ok c →
      ∃ r, c = .generate r ∧ r.dryRun = true) ∧
    Previews ("generate" :: "--dry-run" :: staleLine) ("generate" :: staleLine) staleRequest ∧
    (run stale ("generate" :: staleLine) "").ending.exitCode = 0 ∧
    (∀ events p, prepare stale staleRequest.options = (events, .ok p) → p.Unescaped) ∧
    (run stale ("generate" :: "--dry-run" :: staleLine) "").tree = stale ∧
    (run stale ("generate" :: "--dry-run" :: staleLine) "").ending.exitCode = 0 ∧
    ∃ c, Config.resolve stale staleRequest.options = .ok c ∧
      (run stale ("generate" :: staleLine) "").tree.read
        (ClassFile.target c.outputDir c.generation.packageName) =
          .ok (Text.Utf8.encodeChars
            (run stale ("generate" :: "--dry-run" :: staleLine) "").output) :=
  have hdry : ∀ c, Command.ofArguments ("generate" :: "--dry-run" :: staleLine) = .ok c →
      ∃ r, c = .generate r ∧ r.dryRun = true := fun c hc => by
    rw [previews_staleLine.dry] at hc
    exact ⟨_, (Except.ok.inj hc).symm, rfl⟩
  have hok : (run stale ("generate" :: staleLine) "").ending.exitCode = 0 := by decide +kernel
  have hplain : ∀ events p, prepare stale staleRequest.options = (events, .ok p) →
      p.Unescaped := fun events p hp => by
    have h := prepare_staleRequest
    rw [hp] at h
    cases h
    exact ⟨by decide, by decide⟩
  have h := @preview_faithful stale _ "" hdry
  ⟨hdry, previews_staleLine, hok, hplain, h.1, h.2 _ _ previews_staleLine hok hplain⟩

end BindingIndex.CommandLine
