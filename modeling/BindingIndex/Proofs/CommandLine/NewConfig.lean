import BindingIndex.Proofs.CommandLine.Consent
import BindingIndex.Proofs.CommandLine.Preview
import BindingIndex.Proofs.CommandLine.SameNames
import BindingIndex.Proofs.CommandLine.Specs
import BindingIndex.Proofs.Config.Relocation
import BindingIndex.Proofs.FileTree.Placement

/-!
# New configuration files

What is written as a new configuration file is read back: whatever was at the path before, and
whichever directories had to be made, the file holds the text of a new configuration
(`read_of_writeDefault`), and this text is the configuration `Config.initial`
(`ofBytes_defaultText`).

So a run that takes nothing but its names from the command line has the same sources, be its package
named there or in the new file (`collects_fromFile`, `collects_fromPackage`), and a preview shows
the same class: `new_config_previews`. Its command line is understood whatever the names are, since
the argument behind an option is its value in any case (`readArguments_properties`).
-/

namespace BindingIndex

namespace Config

/-- The configuration that a new file starts with. -/
def initial : Config where
  generation := ⟨"com.example.app", true⟩
  outputDir := defaultOutputDir
  properties := []
  propertiesFile := none

theorem ofBytes_defaultText (path : Path) :
    ofBytes path (Text.Utf8.encode defaultText) = .ok initial :=
  have hhere : ofBytes ⟨.relative, []⟩ (Text.Utf8.encode defaultText) = .ok initial :=
    ok_of_toOption (by decide +kernel)
  ofBytes_ok_of_path hhere path

end Config

namespace CommandLine

variable {t t' : FileTree} {path : Text} {names : List String}

/-! ## The file -/

theorem read_of_writeDefault {p : Path} (h : Config.writeDefault t p = (t', .ok ())) :
    t'.read p = .ok (Text.Utf8.encode Config.defaultText) := by
  rcases writeDefault_cases t p with ⟨t₁, e, -, hwrite⟩ | ⟨t₁, loc, hpass, hputs, hwrite⟩
  · rw [hwrite] at h
    cases h
  · rw [hwrite] at h
    cases h
    exact FileTree.read_ok_iff.2
      ⟨hpass, FileTree.lookup_ok_iff.2 ⟨loc, hputs.located, hputs.placed⟩⟩

/-- **A new configuration file** can be loaded. -/
theorem load_of_writeDefault {p : Path} (h : Config.writeDefault t p = (t', .ok ())) :
    Config.load t' p = .ok Config.initial :=
  Config.load_ok_iff.2 ⟨_, _, read_of_writeDefault h, Config.ofBytes_defaultText p, rfl⟩

/-- The empty text stands for the current directory, which is no file. -/
theorem ne_empty_of_writeDefault (h : Config.writeDefault t (.ofText path) = (t', .ok ())) :
    path ≠ [] := by
  rintro rfl
  obtain ⟨-, hlook⟩ := FileTree.read_ok_iff.1 (read_of_writeDefault h)
  have hdir := FileTree.lookup_of_no_names (t := t') (p := .ofText [])
    ⟨by decide, by decide, fun n hn => nomatch hn⟩ rfl
  rw [hdir] at hlook
  cases hlook

/-! ## Runs that take their names from the command line -/

def fromFile (path : Text) (names : List String) : Options :=
  ⟨some path, none, asTexts names, none, none, none⟩

def fromPackage (packageName : String) (names : List String) : Options :=
  ⟨none, some packageName, asTexts names, none, none, none⟩

theorem collects_fromFile (h : Config.writeDefault t (.ofText path) = (t', .ok ()))
    (names : List String) :
    Collects t' (fromFile path names) (Config.override Config.initial (fromFile path names))
      names := by
  have hgiven : Config.given (fromFile path names).config = some path :=
    Config.given_eq_some_iff.2 ⟨rfl, ne_empty_of_writeDefault h⟩
  refine .file hgiven (load_of_writeDefault h) (rfl : ([] : List String) = []) fun n => ?_
  simp [Config.initial, fromFile, asTexts]

theorem collects_fromPackage (t : FileTree) {packageName : String} (h : packageName ≠ "")
    (names : List String) :
    Collects t (fromPackage packageName names)
      (Config.alone packageName (fromPackage packageName names)) names := by
  have hgiven : Config.given (fromPackage packageName names).package = some packageName :=
    Config.given_eq_some_iff.2 ⟨rfl, mt Text.ofString_eq_nil.1 h⟩
  refine .alone rfl hgiven (Text.isUnicode_ofString _) (rfl : ([] : List String) = []) fun n => ?_
  simp [fromPackage, asTexts]

/-- The command line asks for a preview with these options. -/
def AsksPreview (args : List Text) (o : Options) : Prop :=
  ∃ verbose, Command.ofArguments args = .ok (.generate ⟨o, true, verbose⟩)

/-- The run succeeds, changes nothing and prints the source as it is. -/
structure Shows (t : FileTree) (args : List Text) (input : String) (source : Text) : Prop where
  exitCode : (run t args input).ending.exitCode = 0
  tree : (run t args input).tree = t
  output : Text.ofChars (run t args input).output = source

theorem escape_not_mem_of_control {s : String} (h : ∀ c ∈ s.toList, isControl (.char c) = false) :
    CodePoint.char '\x1b' ∉ (s : Text) := fun hmem => by
  have hescape := h _ (Text.char_mem_ofString.1 hmem)
  revert hescape
  decide

theorem shows_of_collects {args : List Text} {o : Options} {c : Config} {source : Text}
    (hasks : AsksPreview args o) (hcollects : Collects t o c names)
    (hcount : distinct (asTexts names) < Text.firstTooLong)
    (hsource : ClassText.render (asTexts names) c.generation = .ok source)
    (hunicode : c.generation.packageName.IsUnicode)
    (hescape : Prepared.Unescaped ⟨c, asTexts names⟩) (input : String) :
    Shows t args input source := by
  obtain ⟨verbose, hargs⟩ := hasks
  have hplain := escape_not_mem_of_render hescape hsource
  obtain ⟨hall, rfl⟩ := ClassText.of_render_eq_ok hsource
  have hrun : run t args input = generate t ⟨o, true, verbose⟩ := by
    rw [run, hargs]
    rfl
  have hdelivers := delivers_of_collects (r := ⟨o, true, verbose⟩) hcollects hcount
    (fun h => hall (ofString_mem_asTexts.2 h))
  obtain ⟨htree, hprinted⟩ := hdelivers.printed rfl
  have hstrings : ∀ e ∈ (IndexTable.ofNames (asTexts names) : List (Entry Text Index)),
      e.name.IsUnicode := by
    intro e he
    obtain ⟨n, -, hn⟩ := List.mem_map.1 (ClassText.mem_declared_iff.1 ⟨e, he, rfl⟩)
    exact hn ▸ Text.isUnicode_ofString n
  obtain ⟨hending, -, houtput⟩ :=
    hprinted (ClassText.isUnicode_sourceText_iff.2 ⟨hunicode, hstrings⟩)
  refine ⟨?_, by rw [hrun, htree], by rw [hrun, houtput hplain]⟩
  rw [hrun, hending]
  rfl

/-! ## Command lines -/

theorem readArguments_valued {specs : List OptionSpec} {arg name : Text} {key : OptionKey}
    (hdashes : arg ≠ "--") (hoption : isOption arg = true)
    (hread : readOption specs arg = .ok ⟨[], some (key, name)⟩) (value : Text)
    (rest : List Text) :
    readArguments specs (arg :: value :: rest) =
      (readArguments specs rest).map (Given.withOptions [⟨key, value⟩]) := by
  rw [readArguments, if_neg hdashes, if_pos hoption, hread]
  rfl

def propertyArguments (names : List Text) : List Text :=
  names.flatMap fun n => ["--property", n]

/-- **Names are read as they are**, whatever they look like. -/
theorem readArguments_properties (names rest : List Text) :
    readArguments generateSpecs (propertyArguments names ++ rest) =
      (readArguments generateSpecs rest).map
        (Given.withOptions (names.map fun n => ⟨.property, n⟩)) := by
  induction names with
  | nil =>
    show readArguments generateSpecs rest = _
    cases readArguments generateSpecs rest <;> rfl
  | cons n names ih =>
    have hread : readOption generateSpecs "--property" =
        .ok ⟨[], some (.property, "--property")⟩ := by decide
    have hstep := readArguments_valued (by decide) (by decide) hread n
      (propertyArguments names ++ rest)
    show readArguments generateSpecs ("--property" :: n :: (propertyArguments names ++ rest)) = _
    rw [hstep, ih]
    cases readArguments generateSpecs rest <;> rfl

def previewLine (option value : Text) (names : List Text) : List Text :=
  "generate" :: option :: value :: (propertyArguments names ++ [("--dry-run" : Text)])

def previewGiven (key : OptionKey) (value : Text) (names : List Text) : Given :=
  ⟨⟨key, value⟩ :: ((names.map fun n => ⟨.property, n⟩) ++ [⟨.dryRun, []⟩]), []⟩

theorem asksPreview_previewLine {option : Text} {key : OptionKey} (hdashes : option ≠ "--")
    (hoption : isOption option = true)
    (hread : readOption generateSpecs option = .ok ⟨[], some (key, option)⟩)
    (value : Text) (names : List Text) :
    AsksPreview (previewLine option value names) (optionsOf (previewGiven key value names)) := by
  have hlast : readArguments generateSpecs ["--dry-run"] = .ok ⟨[⟨.dryRun, []⟩], []⟩ := by decide
  have hall : readArguments generateSpecs
      (option :: value :: (propertyArguments names ++ [("--dry-run" : Text)])) =
        .ok (previewGiven key value names) := by
    rw [readArguments_valued hdashes hoption hread, readArguments_properties, hlast]
    rfl
  have hoptions := readOptions_eq_ok_iff.2 ⟨hall, rfl⟩
  have hdry : (previewGiven key value names).has .dryRun = true := by simp [previewGiven, Given.has]
  refine ⟨(previewGiven key value names).has .verbose, ?_⟩
  show (readOptions generateSpecs _).map _ = _
  rw [hoptions, ← hdry]
  rfl

theorem asksPreview_fromFile (path : Text) (names : List String) :
    AsksPreview (previewLine "-c" path (asTexts names)) (fromFile path names) := by
  have hread : readOption generateSpecs "-c" = .ok ⟨[], some (.config, "-c")⟩ := by decide
  have hoptions : optionsOf (previewGiven .config path (asTexts names)) = fromFile path names := by
    simp [optionsOf, previewGiven, fromFile, Given.value?, Given.values, finality?,
      Function.comp_def, List.filter_map, List.filterMap_map]
  exact hoptions ▸ asksPreview_previewLine (by decide) (by decide) hread path (asTexts names)

theorem asksPreview_fromPackage (packageName : String) (names : List String) :
    AsksPreview (previewLine "-p" packageName (asTexts names)) (fromPackage packageName names) := by
  have hread : readOption generateSpecs "-p" = .ok ⟨[], some (.package, "-p")⟩ := by decide
  have hoptions : optionsOf (previewGiven .package packageName (asTexts names)) =
      fromPackage packageName names := by
    simp [optionsOf, previewGiven, fromPackage, Given.value?, Given.values, finality?,
      Function.comp_def, List.filter_map, List.filterMap_map]
  exact hoptions ▸ asksPreview_previewLine (by decide) (by decide) hread packageName (asTexts names)

/-! ## Previews of a new configuration -/

/-- **What is written as a new configuration file can be used.** Whatever the tree holds, where a
new configuration file is written it can be loaded. Let names be strings without control characters,
the reserved one not among them, and not so many that an index could not be written. A preview from
this file, on a command line that takes nothing but these names from its options, succeeds and shows
the class of the names in the package `com.example.app`. So does a preview that takes the package
from the command line, and no configuration file. -/
theorem new_config_previews
    (h : Config.writeDefault t (.ofText path) = (t', .ok ())) :
    Config.load t' (.ofText path) = .ok Config.initial ∧
    ∀ names : List String, "_all" ∉ names →
      (∀ n ∈ names, ∀ c ∈ n.toList, isControl (.char c) = false) →
      distinct (asTexts names) < Text.firstTooLong →
      ∃ source, ClassText.render (asTexts names) ⟨"com.example.app", true⟩ = .ok source ∧
        (∀ args input, AsksPreview args (fromFile path names) → Shows t' args input source) ∧
        (∀ t₀ args input, AsksPreview args (fromPackage "com.example.app" names) →
          Shows t₀ args input source) ∧
        AsksPreview (previewLine "-c" path (asTexts names)) (fromFile path names) ∧
        AsksPreview (previewLine "-p" "com.example.app" (asTexts names))
          (fromPackage "com.example.app" names) := by
  refine ⟨load_of_writeDefault h, fun names hall hcontrol hcount => ?_⟩
  have hsource := ClassText.render_eq_sourceText hcount ⟨"com.example.app", true⟩
    (fun hmem => hall (ofString_mem_asTexts.1 hmem))
  have hpackage : CodePoint.char '\x1b' ∉ ("com.example.app" : Text) := by decide
  have hnames : ∀ n ∈ asTexts names, CodePoint.char '\x1b' ∉ n := by
    intro n hn
    obtain ⟨s, hs, rfl⟩ := List.mem_map.1 hn
    exact escape_not_mem_of_control (hcontrol s hs)
  refine ⟨_, hsource, fun args input hasks => ?_, fun t₀ args input hasks => ?_,
    asksPreview_fromFile path names, asksPreview_fromPackage "com.example.app" names⟩
  · exact shows_of_collects hasks (collects_fromFile h names) hcount hsource
      (Text.isUnicode_ofString _) ⟨hpackage, hnames⟩ input
  · exact shows_of_collects hasks (collects_fromPackage t₀ (by decide) names) hcount hsource
      (Text.isUnicode_ofString _) ⟨hpackage, hnames⟩ input

def scribbled : FileTree where
  current := ["work"]
  items := [(["work", "notes.yaml"], .file (Text.Utf8.encode "properties: ["))]

/-- The path to the file makes a directory, and the names look like options or like no name of the
language. -/
theorem new_config_previews_scribbled :
    Config.writeDefault scribbled (.ofText "new/..//notes.yaml") =
      ((Config.writeDefault scribbled (.ofText "new/..//notes.yaml")).1, .ok ()) ∧
    "_all" ∉ ["--dry-run", "é", "-c", "é"] ∧
    (∀ n ∈ ["--dry-run", "é", "-c", "é"], ∀ c ∈ n.toList, isControl (.char c) = false) ∧
    distinct (asTexts ["--dry-run", "é", "-c", "é"]) < Text.firstTooLong ∧
    ∃ source, ClassText.render (asTexts ["--dry-run", "é", "-c", "é"])
        ⟨"com.example.app", true⟩ = .ok source ∧
      Shows (Config.writeDefault scribbled (.ofText "new/..//notes.yaml")).1
        (previewLine "-c" "new/..//notes.yaml" (asTexts ["--dry-run", "é", "-c", "é"])) "" source ∧
      Shows scribbled
        (previewLine "-p" "com.example.app" (asTexts ["--dry-run", "é", "-c", "é"])) "" source := by
  have hwrite : Config.writeDefault scribbled (.ofText "new/..//notes.yaml") =
      ((Config.writeDefault scribbled (.ofText "new/..//notes.yaml")).1, .ok ()) :=
    Prod.ext rfl (ok_of_toOption (by decide +kernel))
  have hall : "_all" ∉ ["--dry-run", "é", "-c", "é"] := by decide
  have hcontrol : ∀ n ∈ ["--dry-run", "é", "-c", "é"], ∀ c ∈ n.toList,
      isControl (.char c) = false := by
    have hnone : (["--dry-run", "é", "-c", "é"].all fun n =>
        n.toList.all fun c => isControl (.char c) == false) = true := by decide
    exact fun n hn c hc => eq_of_beq (List.all_eq_true.1 (List.all_eq_true.1 hnone n hn) c hc)
  have hcount : distinct (asTexts ["--dry-run", "é", "-c", "é"]) < Text.firstTooLong := by
    decide +kernel
  obtain ⟨source, hsource, hfile, hpackage, hasksFile, hasksPackage⟩ :=
    (new_config_previews hwrite).2 _ hall hcontrol hcount
  exact ⟨hwrite, hall, hcontrol, hcount, source, hsource, hfile _ _ hasksFile,
    hpackage scribbled _ _ hasksPackage⟩

end CommandLine

end BindingIndex
