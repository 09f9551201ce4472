import BindingIndex.Proofs.Config.Valid

/-!
# Which setting prevails

`Layered o own c`: in the configuration `c` every option of `o` that is given stands in place of the
setting of `own`, and the properties of both are there, those of `own` first. There is exactly one
such configuration (`layered_iff`).

A run with a configuration file that loads resolves to that configuration. Where the options leave
only the properties to the file, this is what they resolve to on their own, but for those
properties: two ways, one over unchecked edits and one through validation, meet
(`resolve_layered`).
-/

namespace BindingIndex.Config

/-- The setting that results is the one that was chosen, or else the one that was there. -/
structure Prevails {α : Type} (choice : Option α) (own result : α) : Prop where
  chosen : ∀ a, choice = some a → result = a
  kept : choice = none → result = own

theorem prevails_iff {α : Type} {choice : Option α} {own result : α} :
    Prevails choice own result ↔ result = choice.getD own := by
  constructor
  · intro h
    cases hc : choice with
    | none => exact h.kept hc
    | some a => exact h.chosen a hc
  · rintro rfl
    refine ⟨fun a ha => ?_, fun hnone => ?_⟩
    · rw [ha]
      rfl
    · rw [hnone]
      rfl

/-- The settings of `c` are the options that are given, over those of `own`. An empty text counts as
not given, a finality that is asked for always counts, and a path that is given is as it was
written, wherever `own` comes from. -/
structure Layered (o : Options) (own c : Config) : Prop where
  packageName : Prevails (given o.package) own.generation.packageName c.generation.packageName
  useFinal : Prevails o.useFinal own.generation.useFinal c.generation.useFinal
  outputDir : Prevails ((given o.output).map Path.ofText) own.outputDir c.outputDir
  propertiesFile : Prevails ((given o.propertiesFile).map fun s => some (Path.ofText s))
    own.propertiesFile c.propertiesFile
  properties : c.properties = own.properties ++ o.properties

theorem layered_iff {o : Options} {own c : Config} : Layered o own c ↔ c = override own o := by
  have hfile : ((given o.propertiesFile).map fun s => some (Path.ofText s)).getD
      own.propertiesFile = (givenPath o.propertiesFile).or own.propertiesFile := by
    rw [givenPath]
    cases given o.propertiesFile <;> rfl
  constructor
  · intro h
    obtain ⟨⟨packageName, useFinal⟩, outputDir, properties, propertiesFile⟩ := c
    have hp : packageName = _ := prevails_iff.1 h.packageName
    have hu : useFinal = _ := prevails_iff.1 h.useFinal
    have ho : outputDir = _ := prevails_iff.1 h.outputDir
    have hf : propertiesFile = _ := prevails_iff.1 h.propertiesFile
    have hps : properties = _ := h.properties
    rw [override, hp, hu, ho, hf, hps, hfile]
    rfl
  · rintro rfl
    exact ⟨prevails_iff.2 rfl, prevails_iff.2 rfl, prevails_iff.2 rfl, prevails_iff.2 hfile.symm,
      rfl⟩

/-- The options leave nothing but properties to a configuration file. -/
structure Complete (o : Options) : Prop where
  packageName : ∃ p, given o.package = some p
  useFinal : ∃ b, o.useFinal = some b
  outputDir : ∃ s, given o.output = some s
  propertiesFile : ∃ s, given o.propertiesFile = some s

theorem override_of_complete {o : Options} (h : Complete o) {packageName : Text}
    (hp : given o.package = some packageName) (own : Config) :
    override own o =
      { alone packageName o with properties := own.properties ++ o.properties } := by
  obtain ⟨b, hb⟩ := h.useFinal
  obtain ⟨s, hs⟩ := h.outputDir
  obtain ⟨f, hf⟩ := h.propertiesFile
  simp [override, alone, givenPath, hp, hb, hs, hf]

/-- **Options take precedence over a configuration file**, setting by setting, and the file's
properties come first. The file's own settings are those in its bytes, with a relative properties
file taken from the directory of the file. Under options that leave only the properties to the file,
the configuration is the one that these options resolve to without it, whatever files there are,
with the file's properties in front. Without the file they resolve for every package that is
Unicode, and are refused for any other. -/
theorem resolve_layered {t : FileTree} {o : Options} {path : Text} {own : Config}
    (hpath : given o.config = some path) (hload : load t (.ofText path) = .ok own) :
    (∃ bytes written, t.read (.ofText path) = .ok bytes ∧
      ofBytes (.ofText path) bytes = .ok written ∧
      own = { written with
        propertiesFile := written.propertiesFile.map (Path.ofText path).parent.join }) ∧
    (∃ c, resolve t o = .ok c ∧ ∀ d, Layered o own d ↔ d = c) ∧
    (Complete o → ∃ packageName c, given o.package = some packageName ∧
      (∀ t', resolve t' { o with config := none } =
        if packageName.IsUnicode then .ok c else .error (notUnicode packageName)) ∧
      c.properties = o.properties ∧
      resolve t o = .ok { c with properties := own.properties ++ c.properties }) := by
  have hresolve : resolve t o = .ok (override own o) := by
    rw [resolve, hpath]
    dsimp only
    rw [hload]
    rfl
  refine ⟨?_, ⟨_, hresolve, fun d => layered_iff⟩, fun hcomplete => ?_⟩
  · obtain ⟨bytes, written, hread, hwritten, hown⟩ := load_ok_iff.1 hload
    exact ⟨bytes, written, hread, hwritten, hown⟩
  · obtain ⟨packageName, hp⟩ := hcomplete.packageName
    refine ⟨packageName, alone packageName o, hp, fun t' => ?_, rfl, ?_⟩
    · have halone := ofArguments_toArguments (o := { o with config := none }) hp
      rw [resolve]
      exact halone
    · rw [hresolve, override_of_complete hcomplete hp]
      rfl

def siteTakeover : Options where
  config := some "conf/brgen.yaml"
  package := some "lib"
  properties := ["a", "b"]
  propertiesFile := some "names/list.txt"
  useFinal := some false
  output := some "gen//java"

/-- The list of the options is not the one beside the configuration file. -/
theorem resolve_layered_site :
    (given siteTakeover.config = some "conf/brgen.yaml" ∧
      load site (.ofText "conf/brgen.yaml") = .ok siteConfig ∧ Complete siteTakeover) ∧
    (∃ bytes written, site.read (.ofText "conf/brgen.yaml") = .ok bytes ∧
      ofBytes (.ofText "conf/brgen.yaml") bytes = .ok written ∧
      siteConfig = { written with
        propertiesFile :=
          written.propertiesFile.map (Path.ofText "conf/brgen.yaml").parent.join }) ∧
    (∃ c, resolve site siteTakeover = .ok c ∧ ∀ d, Layered siteTakeover siteConfig d ↔ d = c) ∧
    ∃ packageName c, given siteTakeover.package = some packageName ∧
      (∀ t', resolve t' { siteTakeover with config := none } =
        if packageName.IsUnicode then .ok c else .error (notUnicode packageName)) ∧
      c.properties = siteTakeover.properties ∧
      resolve site siteTakeover =
        .ok { c with properties := siteConfig.properties ++ c.properties } :=
  have hpath : given siteTakeover.config = some "conf/brgen.yaml" := by decide
  have hcomplete : Complete siteTakeover :=
    ⟨⟨"lib", by decide⟩, ⟨false, rfl⟩, ⟨"gen//java", by decide⟩, ⟨"names/list.txt", by decide⟩⟩
  have h := resolve_layered hpath load_site
  ⟨⟨hpath, load_site, hcomplete⟩, h.1, h.2.1, h.2.2 hcomplete⟩

end BindingIndex.Config
