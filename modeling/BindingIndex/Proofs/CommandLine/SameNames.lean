import BindingIndex.Proofs.ClassText.Rendered
import BindingIndex.Proofs.CommandLine.Delivery
import BindingIndex.Proofs.Config.Resolved
import BindingIndex.Proofs.PropertyList.Written

/-!
# Runs with the same names

The names of a run come from three places: the inline properties of a configuration file, the lines
of the one properties file in effect, and the options. `Collects t o c names` says that together
these places hold the set `names`, all of them strings, and that `c` is the configuration in effect.

* `prepare_of_collects`: nothing is lost on the way, and nothing is added.
* `delivers_of_collects`: such a run delivers the source of the one table of `names`.
* `generate_same_names`: so where a name is given, how often and in which order does not matter.
-/

namespace BindingIndex

open Config

/-- What the properties file in effect lists; without one there are no such names. -/
def PropertyList.Lists (t : FileTree) : Option Path → List String → Prop
  | none, listed => listed = []
  | some path, listed =>
    ∃ text, t.read path = .ok (Text.Utf8.encodeChars text) ∧ PropertyList.Writes text listed

namespace CommandLine

def asTexts (names : List String) : List Text := names.map Text.ofString

theorem ofString_mem_asTexts {n : String} {names : List String} :
    (n : Text) ∈ asTexts names ↔ n ∈ names := by
  simp [asTexts]

theorem mem_asTexts_congr {names names' : List String} (h : ∀ n, n ∈ names ↔ n ∈ names')
    (n : Text) : n ∈ asTexts names ↔ n ∈ asTexts names' := by
  simp [asTexts, h]

/-- The names of a run are those of all its sources. With a configuration file that can be loaded,
its properties count, and its properties file unless the options name another one. -/
inductive Collects (t : FileTree) (o : Options) : Config → List String → Prop
  | file {path : Text} {c : Config} {listed names : List String} :
      given o.config = some path → Config.load t (.ofText path) = .ok c →
      PropertyList.Lists t ((givenPath o.propertiesFile).or c.propertiesFile) listed →
      (∀ n, n ∈ asTexts names ↔ n ∈ c.properties ∨ n ∈ asTexts listed ∨ n ∈ o.properties) →
      Collects t o (Config.override c o) names
  | alone {packageName : Text} {listed names : List String} :
      given o.config = none → given o.package = some packageName → packageName.IsUnicode →
      PropertyList.Lists t (givenPath o.propertiesFile) listed →
      (∀ n, n ∈ asTexts names ↔ n ∈ asTexts listed ∨ n ∈ o.properties) →
      Collects t o (Config.alone packageName o) names

variable {t : FileTree} {o : Options} {c : Config} {names : List String}

theorem propertyNames_of_lists {listed : List String}
    (h : PropertyList.Lists t c.propertiesFile listed) :
    propertyNames t c = .ok (c.properties ++ asTexts listed) := by
  rw [propertyNames]
  cases hf : c.propertiesFile with
  | none =>
    rw [hf] at h
    obtain rfl : listed = [] := h
    exact congrArg Except.ok (List.append_nil _).symm
  | some path =>
    rw [hf] at h
    obtain ⟨text, hread, hw⟩ := h
    dsimp only
    rw [PropertyList.read_of_writes hread hw]
    rfl

theorem prepare_of_resolve {listed : List String} (hc : resolve t o = .ok c)
    (hl : PropertyList.Lists t c.propertiesFile listed) :
    prepare t o = (loadedEvents o ++ listedEvents ⟨c, c.properties ++ asTexts listed⟩,
      .ok ⟨c, c.properties ++ asTexts listed⟩) := by
  rw [prepare, hc]
  dsimp only
  rw [propertyNames_of_lists hl]

/-- **A run gets its names** from all its sources. -/
theorem prepare_of_collects (h : Collects t o c names) :
    ∃ events collected, prepare t o = (events, .ok ⟨c, collected⟩) ∧
      ∀ n, n ∈ collected ↔ n ∈ asTexts names := by
  cases h with
  | @file path c₀ listed _ hconfig hload hlists hnames =>
    have hresolve : resolve t o = .ok (Config.override c₀ o) := by
      rw [resolve, hconfig]
      dsimp only
      rw [hload]
      rfl
    refine ⟨_, _, prepare_of_resolve hresolve hlists, fun n => ?_⟩
    have hprops : (Config.override c₀ o).properties = c₀.properties ++ o.properties := rfl
    rw [hnames, hprops, List.mem_append, List.mem_append, or_assoc, or_comm (a := n ∈ o.properties)]
  | @alone packageName listed _ hconfig hpackage hunicode hlists hnames =>
    have hresolve : resolve t o = .ok (Config.alone packageName o) := by
      rw [resolve, hconfig]
      exact (ofArguments_toArguments hpackage).trans (if_pos hunicode)
    refine ⟨_, _, prepare_of_resolve hresolve hlists, fun n => ?_⟩
    have hprops : (Config.alone packageName o).properties = o.properties := rfl
    rw [hnames, hprops, List.mem_append, or_comm]

theorem ofNames_congr {names' : List String} (h : ∀ n, n ∈ names ↔ n ∈ names') :
    IndexTable.ofNames (asTexts names) = IndexTable.ofNames (asTexts names') :=
  (IndexTable.assign_eq_iff (IndexTable.keysApart_ofString names)).2 (mem_asTexts_congr h)

theorem delivers_of_collects {r : GenerateRequest} (h : Collects t r.options c names)
    (hcount : distinct (asTexts names) < Text.firstTooLong)
    (hall : ClassText.allProperties ∉ names) :
    Delivers t r c (ClassText.sourceText (IndexTable.ofNames (asTexts names)) c.generation) := by
  obtain ⟨events, collected, hp, hset⟩ := prepare_of_collects h
  have htable : IndexTable.ofNames (asTexts names) = IndexTable.ofNames collected :=
    (IndexTable.assign_eq_iff (IndexTable.keysApart_ofString names)).2 fun n => (hset n).symm
  rw [distinct, htable] at hcount
  rw [htable]
  refine delivers_of_render hp (ClassText.render_eq_sourceText hcount c.generation fun hmem => ?_)
  exact hall (ofString_mem_asTexts.1 ((hset _).1 hmem))

/-- **Only the set of names matters.** Two runs with one package and finality whose sources hold the
same set of names, the reserved one not among them, deliver the same source, whichever sources the
names come from: the text of the one table that numbers the set in ascending order. There may be as
many names as have an index that can be written. -/
theorem generate_same_names {t₁ t₂ : FileTree} {r₁ r₂ : GenerateRequest} {c₁ c₂ : Config}
    {names₁ names₂ : List String} (h₁ : Collects t₁ r₁.options c₁ names₁)
    (h₂ : Collects t₂ r₂.options c₂ names₂) (hg : c₁.generation = c₂.generation)
    (hset : ∀ n, n ∈ names₁ ↔ n ∈ names₂) (hall : ClassText.allProperties ∉ names₁)
    (hcount : distinct (asTexts names₁) < Text.firstTooLong) :
    ∃ table, IndexTable.IsTable (fun a b => Text.Precedes (Text.unitsOf a) (Text.unitsOf b))
        (asTexts names₁) table ∧
      Delivers t₁ r₁ c₁ (ClassText.sourceText table c₁.generation) ∧
      Delivers t₂ r₂ c₂ (ClassText.sourceText table c₁.generation) := by
  have htable := ofNames_congr hset
  have hkeys := IndexTable.keysApart_ofString names₁
  refine ⟨_, IndexTable.isTable_ofNames hkeys, delivers_of_collects h₁ hcount hall, ?_⟩
  rw [distinct, htable] at hcount
  rw [hg, htable]
  exact delivers_of_collects h₂ hcount fun h => hall ((hset _).2 h)

def shelf : FileTree where
  current := ["work"]
  items := [
    (["work", "brgen.yaml"], .file (Text.Utf8.encode
      "generation:\n  package_name: app\nproperties: [b]\nproperties_file: names.txt\n")),
    (["work", "names.txt"], .file (Text.Utf8.encode " a\n# more\nc"))]

def shelfConfig : Config where
  generation := ⟨"app", true⟩
  outputDir := defaultOutputDir
  properties := ["b"]
  propertiesFile := some ⟨.relative, ["names.txt"]⟩

/-- A preview that takes names from all three sources. -/
def shelfRun : GenerateRequest :=
  ⟨⟨some "brgen.yaml", none, ["c", "b"], none, none, none⟩, true, false⟩

def bareRun : GenerateRequest :=
  ⟨⟨none, some "app", ["c", "b", "a"], none, some true, some "out"⟩, false, false⟩

theorem load_shelf : Config.load shelf (.ofText "brgen.yaml") = .ok shelfConfig :=
  ok_of_toOption (by decide +kernel)

theorem lists_shelf : PropertyList.Lists shelf shelfConfig.propertiesFile ["a", "c"] := by
  have ha : PropertyList.IsName "a" := PropertyList.isName_of_solid (by decide) (by decide)
  have hc : PropertyList.IsName "c" := PropertyList.isName_of_solid (by decide) (by decide)
  have hlf : Text.IsTerminator ['\n'] := .inr ⟨'\n', by decide, rfl⟩
  have hmargin : PropertyList.IsMargin [' '] := by decide
  have hnone : PropertyList.IsMargin [] := by decide
  have hmore : ∀ c ∈ " more".toList, Text.isLineBoundary c = false := by
    have hall : " more".toList.all (fun c => !Text.isLineBoundary c) = true := by decide
    simpa using hall
  have hlines : PropertyList.Writes
      (([' '] ++ "a".toList ++ []) ++ ['\n'] ++ (([] ++ '#' :: " more".toList) ++ ['\n'] ++
        ([] ++ "c".toList ++ []))) ["a", "c"] :=
    .line (.name hmargin hnone ha) hlf
      (.line (.comment hnone hmore) hlf (.last (.name hnone hnone hc)))
  exact ⟨_, by decide, hlines⟩

theorem collects_shelfRun : Collects shelf shelfRun.options
    (Config.override shelfConfig shelfRun.options) ["b", "a", "c"] := by
  refine .file rfl load_shelf lists_shelf fun n => ?_
  simp only [asTexts, shelfConfig, shelfRun, List.map_cons, List.map_nil, List.mem_cons,
    List.not_mem_nil]
  tauto

theorem collects_bareRun (t : FileTree) : Collects t bareRun.options
    (Config.alone "app" bareRun.options) ["c", "b", "a"] := by
  refine .alone rfl rfl (by decide) (rfl : ([] : List String) = []) fun n => ?_
  simp only [asTexts, bareRun, List.map_cons, List.map_nil, List.not_mem_nil, false_or]

/-- A preview that reads its names from files too, and a run that reads no file. -/
theorem generate_same_names_shelf :
    Collects shelf shelfRun.options (Config.override shelfConfig shelfRun.options)
      ["b", "a", "c"] ∧
    distinct (asTexts ["b", "a", "c"]) < Text.firstTooLong ∧
    Collects ⟨[], []⟩ bareRun.options (Config.alone "app" bareRun.options) ["c", "b", "a"] ∧
    ∃ table, IndexTable.IsTable (fun a b => Text.Precedes (Text.unitsOf a) (Text.unitsOf b))
        (asTexts ["b", "a", "c"]) table ∧
      Delivers shelf shelfRun (Config.override shelfConfig shelfRun.options)
        (ClassText.sourceText table ⟨"app", true⟩) ∧
      Delivers ⟨[], []⟩ bareRun (Config.alone "app" bareRun.options)
        (ClassText.sourceText table ⟨"app", true⟩) :=
  have h₁ := collects_shelfRun
  have h₂ := collects_bareRun ⟨[], []⟩
  have hset : ∀ n, n ∈ ["b", "a", "c"] ↔ n ∈ ["c", "b", "a"] := fun n => by
    simp only [List.mem_cons, List.not_mem_nil]
    tauto
  have hcount : distinct (asTexts ["b", "a", "c"]) < Text.firstTooLong := by decide +kernel
  ⟨h₁, hcount, h₂, generate_same_names h₁ h₂ rfl hset (by decide) hcount⟩

end CommandLine

end BindingIndex
