import BindingIndex.Proofs.Config.Resolved
import BindingIndex.Proofs.FileTree.Walk

/-!
# Valid configurations

`Valid c`: what the types of a configuration do not say of it by themselves. Its package is not
empty, and its paths are in normal form.

* Every check gives a valid part, so what passes validation is valid (`valid_of_validate`), and so
  is what is loaded from a file, whose properties file is moved below the file's directory
  (`valid_of_load`).
* Options are laid over a configuration unchecked; it stays valid, since what counts as given is not
  empty and a path that is given is read (`Valid.override`).
* A valid configuration passes validation as it is if its package is Unicode, and is refused
  otherwise (`Valid.validate`). Only options beside a file can bring in another package.

Together: which configurations of a run would be accepted again (`resolve_accepted`).
-/

namespace BindingIndex

namespace Path

theorem IsNormal.parent {p : Path} (h : p.IsNormal) : p.parent.IsNormal := fun n hn =>
  h n (List.dropLast_subset _ hn)

theorem IsNormal.join {p q : Path} (hp : p.IsNormal) (hq : q.IsNormal) : (p.join q).IsNormal := by
  rw [Path.join]
  split
  · exact hq
  · intro n hn
    rcases List.mem_append.1 hn with hn | hn
    · exact hp n hn
    · exact hq n hn

end Path

namespace Config

/-- What holds of every configuration in use. -/
structure Valid (c : Config) : Prop where
  packageName : c.generation.packageName ≠ []
  outputDir : c.outputDir.IsNormal
  propertiesFile : ∀ p, c.propertiesFile = some p → p.IsNormal

/-! ## What checks give -/

theorem check_both_ok_iff {α β : Type} {x : Checked α} {y : Checked β} {r : α × β} :
    Check.both x y = .ok r ↔ x = .ok r.1 ∧ y = .ok r.2 := by
  obtain ⟨a, b⟩ := r
  cases x with
  | error fs => simp [Check.both]
  | ok a' =>
    cases y with
    | error fs => simp [Check.both]
    | ok b' => simp [Check.both]

theorem report_eq_ok_iff {α : Type} {subject : Subject} {x : Checked α} {a : α} :
    report subject x = .ok a ↔ x = .ok a := by
  cases x with
  | error fs => simp [report]
  | ok b => simp [report]

theorem isUnicode_of_check_text {place : List Step} {v : Value} {s : Text}
    (hv : ∀ u, v ≠ .codes u) (h : Check.text place v = .ok s) : s.IsUnicode := by
  unfold Check.text at h
  split at h
  · cases h
    exact Text.isUnicode_ofString _
  · exact absurd rfl (hv _)
  · split at h
    · cases h
      exact Text.isUnicode_ofChars _
    · cases h
  · cases h

theorem check_packageName_ok {place : List Step} {v : Value} {s : Text}
    (h : Check.packageName place v = .ok s) : s ≠ [] ∧ s.IsUnicode := by
  unfold Check.packageName at h
  split at h
  · cases h
  · rename_i hv
    split at h
    · rename_i htext
      split at h
      · cases h
      · rename_i hne
        cases h
        exact ⟨hne, isUnicode_of_check_text hv htext⟩
    · cases h

theorem isNormal_of_check_path {place : List Step} {v : Value} {p : Path}
    (h : Check.path place v = .ok p) : p.IsNormal := by
  unfold Check.path at h
  split at h
  · cases h
    exact Path.isNormal_ofText _
  · cases h
    exact Path.isNormal_ofText _
  · cases h

theorem isNormal_of_check_optionalPath {place : List Step} {v : Value} {f : Option Path} {p : Path}
    (h : Check.optionalPath place v = .ok f) (hf : f = some p) : p.IsNormal := by
  unfold Check.optionalPath at h
  split at h
  · cases h
    cases hf
  · obtain ⟨q, hq, rfl⟩ := map_eq_ok_iff.1 h
    cases hf
    exact isNormal_of_check_path hq

theorem check_optional_ok {α : Type} {place : List Step} {entries : List (Value × Value)}
    {name : String} {default a : α} {check : List Step → Value → Checked α}
    (h : Check.optional place entries name default check = .ok a) :
    a = default ∨ ∃ v, check (place ++ [.field name]) v = .ok a := by
  rw [Check.optional] at h
  split at h
  · exact .inr ⟨_, h⟩
  · cases h
    exact .inl rfl

theorem check_required_ok {α : Type} {place : List Step} {entries : List (Value × Value)}
    {label : Option Nat} {name : String} {a : α} {check : List Step → Value → Checked α}
    (h : Check.required place entries label name check = .ok a) :
    ∃ v, check (place ++ [.field name]) v = .ok a := by
  rw [Check.required] at h
  split at h
  · exact ⟨_, h⟩
  · cases h

theorem check_generation_ok {place : List Step} {v : Value} {g : Generation}
    (h : Check.generation place v = .ok g) : g.packageName ≠ [] ∧ g.packageName.IsUnicode := by
  unfold Check.generation at h
  split at h
  · rw [Check.generationFields] at h
    obtain ⟨⟨p, f⟩, hboth, rfl⟩ := map_eq_ok_iff.1 h
    obtain ⟨v, hv⟩ := check_required_ok (check_both_ok_iff.1 hboth).1
    exact check_packageName_ok hv
  · cases h

theorem isNormal_of_check_output {place : List Step} {v : Value} {p : Path}
    (h : Check.output place v = .ok p) : p.IsNormal := by
  unfold Check.output at h
  split at h
  · rw [Check.outputFields] at h
    rcases check_optional_ok h with rfl | ⟨v, hv⟩
    · exact isNormal_defaultOutputDir
    · exact isNormal_of_check_path hv
  · cases h

/-- **What passes validation** is valid, and its package is Unicode. -/
theorem valid_of_validate {entries : List (Value × Value)} {c : Config}
    (h : validate entries = .ok c) : Valid c ∧ c.generation.packageName.IsUnicode := by
  have hwhole : Check.whole entries = .ok c := report_eq_ok_iff.1 h
  rw [Check.whole] at hwhole
  obtain ⟨⟨g, o, ps, f⟩, hboth, rfl⟩ := map_eq_ok_iff.1 hwhole
  obtain ⟨hg, hrest⟩ := check_both_ok_iff.1 hboth
  obtain ⟨ho, hrest⟩ := check_both_ok_iff.1 hrest
  obtain ⟨-, hf⟩ := check_both_ok_iff.1 hrest
  obtain ⟨v, hv⟩ := check_required_ok hg
  obtain ⟨hne, hu⟩ := check_generation_ok hv
  refine ⟨⟨hne, ?_, fun p hp => ?_⟩, hu⟩
  · show o.IsNormal
    rcases check_optional_ok ho with (rfl : o = defaultOutputDir) | ⟨v, hv⟩
    · exact isNormal_defaultOutputDir
    · exact isNormal_of_check_output hv
  · rcases check_optional_ok hf with hdefault | ⟨v, hv⟩
    · exact absurd (hp.symm.trans hdefault) (by simp)
    · exact isNormal_of_check_optionalPath hv hp

/-! ## Configurations of a run -/

theorem valid_of_ofDocument {v : Value} {c : Config} (h : ofDocument v = .ok c) :
    Valid c ∧ c.generation.packageName.IsUnicode := by
  unfold ofDocument at h
  split at h
  · cases h
  · split at h
    · split at h
      · rename_i hv
        cases h
        exact valid_of_validate hv
      · cases h
    · cases h
  · cases h

theorem valid_of_ofBytes {path : Path} {bytes : List UInt8} {c : Config}
    (h : ofBytes path bytes = .ok c) : Valid c ∧ c.generation.packageName.IsUnicode := by
  rw [ofBytes] at h
  split at h
  · exact valid_of_ofDocument h
  · cases h
  · cases h
  · cases h

theorem Valid.seenFrom {c : Config} (h : Valid c) {dir : Path} (hdir : dir.IsNormal) :
    Valid (seenFrom dir c) := by
  refine ⟨h.packageName, h.outputDir, fun p hp => ?_⟩
  obtain ⟨q, hq, rfl⟩ := Option.map_eq_some_iff.1 hp
  exact hdir.join (h.propertiesFile q hq)

theorem load_ok_iff {t : FileTree} {path : Path} {c : Config} :
    load t path = .ok c ↔ ∃ bytes own, t.read path = .ok bytes ∧ ofBytes path bytes = .ok own ∧
      c = Config.seenFrom path.parent own := by
  constructor
  · intro h
    rw [load] at h
    split at h
    · cases h
    · cases h
    split at h
    · cases h
    rename_i bytes hread
    obtain ⟨own, hown, rfl⟩ := map_eq_ok_iff.1 h
    exact ⟨bytes, own, hread, hown, rfl⟩
  · rintro ⟨bytes, own, hread, hown, rfl⟩
    rw [load, FileTree.exists?_of_read hread]
    dsimp only
    rw [hread]
    dsimp only
    rw [hown]
    rfl

theorem valid_of_load {t : FileTree} {path : Path} {c : Config} (hpath : path.IsNormal)
    (h : load t path = .ok c) : Valid c ∧ c.generation.packageName.IsUnicode := by
  obtain ⟨bytes, own, -, hown, rfl⟩ := load_ok_iff.1 h
  obtain ⟨hvalid, hu⟩ := valid_of_ofBytes hown
  exact ⟨hvalid.seenFrom hpath.parent, hu⟩

theorem getD_of_forall {α : Type} {P : α → Prop} {s : Option α} {a : α}
    (hs : ∀ b, s = some b → P b) (ha : P a) : P (s.getD a) := by
  cases s with
  | none => exact ha
  | some b => exact hs b rfl

theorem Valid.override {c : Config} (h : Valid c) (o : Options) : Valid (override c o) := by
  refine ⟨?_, ?_, fun p hp => ?_⟩
  · exact getD_of_forall (P := (· ≠ [])) (fun p hp => (given_eq_some_iff.1 hp).2) h.packageName
  · exact getD_of_forall (P := Path.IsNormal) (fun p => isNormal_givenPath) h.outputDir
  · rcases Option.or_eq_some_iff.1 hp with hp | ⟨-, hp⟩
    · exact isNormal_givenPath hp
    · exact h.propertiesFile p hp

theorem valid_alone {packageName : Text} (h : packageName ≠ []) (o : Options) :
    Valid (alone packageName o) := by
  refine ⟨h, ?_, fun p => isNormal_givenPath⟩
  exact getD_of_forall (P := Path.IsNormal) (fun p => isNormal_givenPath) isNormal_defaultOutputDir

theorem ofArguments_toArguments_ok_iff {o : Options} {c : Config} :
    ofArguments (Options.toArguments o) = .ok c ↔
      ∃ packageName, given o.package = some packageName ∧ packageName.IsUnicode ∧
        c = alone packageName o := by
  cases hp : given o.package with
  | none =>
    rw [ofArguments_toArguments_none hp]
    simp
  | some packageName =>
    rw [ofArguments_toArguments hp]
    by_cases hu : packageName.IsUnicode
    · rw [if_pos hu]
      simp [hu, eq_comm]
    · rw [if_neg hu]
      simp [hu]

/-- Options beside a configuration file name a package that is not Unicode. -/
def PackageUnchecked (o : Options) (packageName : Text) : Prop :=
  (∃ path, given o.config = some path) ∧ given o.package = some packageName ∧
    ¬ packageName.IsUnicode

/-- **Every configuration of a run** is valid. Its package is Unicode, unless it was not checked. -/
theorem valid_of_resolve {t : FileTree} {o : Options} {c : Config} (h : resolve t o = .ok c) :
    Valid c ∧ (¬ c.generation.packageName.IsUnicode ↔
      PackageUnchecked o c.generation.packageName) := by
  rw [resolve] at h
  split at h
  · rename_i path hpath
    obtain ⟨own, hload, rfl⟩ := map_eq_ok_iff.1 h
    obtain ⟨hvalid, hu⟩ := valid_of_load (Path.isNormal_ofText _) hload
    refine ⟨hvalid.override o, fun hn => ?_, fun hn => hn.2.2⟩
    cases hp : given o.package with
    | none =>
      rw [override, hp] at hn
      exact absurd hu hn
    | some packageName =>
      rw [override, hp] at hn ⊢
      exact ⟨⟨path, hpath⟩, hp, hn⟩
  · rename_i hnone
    obtain ⟨packageName, hp, hu, rfl⟩ := ofArguments_toArguments_ok_iff.1 h
    refine ⟨valid_alone (given_eq_some_iff.1 hp).2 o, fun hn => absurd hu hn, fun hn => ?_⟩
    obtain ⟨⟨path, hpath⟩, -⟩ := hn
    rw [hnone] at hpath
    cases hpath

/-! ## Validating again -/

theorem check_generationValue {g : Generation} (h : g.packageName ≠ []) (place : List Step) :
    Check.generation place (generationValue g) =
      (checkedName (place ++ [.field "package_name"]) g.packageName).map fun p =>
        ⟨p, g.useFinal⟩ :=
  check_generationFields h g.useFinal place none

theorem check_outputValue {p : Path} (h : p.IsNormal) (place : List Step) :
    Check.output place (outputValue p) = .ok p := by
  show Check.outputFields place [(.text "output_dir", .ofText p.toText)] = .ok p
  exact check_path (place ++ [.field "output_dir"]) h

/-- Why a configuration is refused whose package is not Unicode. -/
def packageReport (packageName : Text) : Report :=
  ⟨.whole, [⟨[.field "generation", .field "package_name"], .notUtf8, .codes packageName⟩]⟩

def fileValue : Option Path → Value
  | some p => .ofText p.toText
  | none => .null

theorem check_fileValue {f : Option Path} (h : ∀ p, f = some p → p.IsNormal) (place : List Step) :
    Check.optionalPath place (fileValue f) = .ok f := by
  cases f with
  | none => rfl
  | some p => exact check_optionalPath place (h p rfl)

def entries (c : Config) : List (Value × Value) :=
  [(.text "generation", generationValue c.generation), (.text "output", outputValue c.outputDir),
    (.text "properties", .list none (c.properties.map .ofText)),
    (.text "properties_file", fileValue c.propertiesFile)]

theorem toValue_eq (c : Config) : c.toValue = .dict none c.entries := by
  obtain ⟨generation, outputDir, properties, propertiesFile⟩ := c
  cases propertiesFile <;> rfl

theorem check_whole_entries (c : Config) :
    Check.whole c.entries =
      (Check.both (Check.generation ([] ++ [.field "generation"]) (generationValue c.generation))
        (Check.both (Check.output ([] ++ [.field "output"]) (outputValue c.outputDir))
          (Check.both (Check.texts ([] ++ [.field "properties"])
              (.list none (c.properties.map .ofText)))
            (Check.optionalPath ([] ++ [.field "properties_file"])
              (fileValue c.propertiesFile))))).map fun (g, o, ps, f) => ⟨g, o, ps, f⟩ := rfl

/-- **A valid configuration** passes validation as it is, if its package is Unicode. -/
theorem Valid.validate {c : Config} (h : Valid c) :
    Config.validate c.entries =
      if c.generation.packageName.IsUnicode then .ok c
      else .error (packageReport c.generation.packageName) := by
  have hproperties : Check.texts ([] ++ [.field "properties"])
      (.list none (c.properties.map .ofText)) = .ok c.properties := check_textsFrom _ _ _
  rw [Config.validate, check_whole_entries, check_generationValue h.packageName,
    check_outputValue h.outputDir, hproperties, check_fileValue h.propertiesFile]
  by_cases hu : c.generation.packageName.IsUnicode
  · rw [checkedName, if_pos hu, if_pos hu]
    rfl
  · rw [checkedName, if_neg hu, if_neg hu]
    rfl

/-- **Which configurations of a run would be accepted again.** Whatever the options and the files,
the field values of what they resolve to pass validation as they are, and give the same
configuration, if and only if the package is Unicode; else the package is all that is wrong with
them. It is Unicode but for one given beside a configuration file, which nothing has checked. In any
case it is not empty, and the paths are in normal form. -/
theorem resolve_accepted {t : FileTree} {o : Options} {c : Config} (h : resolve t o = .ok c) :
    (c.toValue = .dict none c.entries ∧
      (validate c.entries = .ok c ↔ c.generation.packageName.IsUnicode) ∧
      (validate c.entries = .error (packageReport c.generation.packageName) ↔
        ¬ c.generation.packageName.IsUnicode)) ∧
    (¬ c.generation.packageName.IsUnicode ↔ PackageUnchecked o c.generation.packageName) ∧
    c.generation.packageName ≠ [] ∧ c.outputDir.IsNormal ∧
    ∀ p, c.propertiesFile = some p → p.IsNormal := by
  obtain ⟨hc, hu⟩ := valid_of_resolve h
  refine ⟨⟨c.toValue_eq, ?_, ?_⟩, hu, hc.packageName, hc.outputDir, hc.propertiesFile⟩ <;>
    rw [hc.validate] <;> split <;> simp [*]

def site : FileTree where
  current := ["work"]
  items := [(["work", "conf"], .dir), (["work", "conf", "brgen.yaml"], .file (Text.Utf8.encode
    ("generation:\n  package_name: !!binary YXBw\n  use_final: 'ON'\n" ++
      "output:\n  output_dir: .//out/./src/\n" ++
      "properties: [b]\nproperties_file: ./names//list.txt\n")))]

def siteConfig : Config where
  generation := ⟨"app", true⟩
  outputDir := ⟨.relative, ["out", "src"]⟩
  properties := ["b"]
  propertiesFile := some ⟨.relative, ["conf", "names", "list.txt"]⟩

theorem load_site : load site (.ofText "conf/brgen.yaml") = .ok siteConfig :=
  ok_of_toOption (by decide +kernel)

def siteOptions : Options where
  config := some "conf/brgen.yaml"
  package := some ""
  properties := ["c", "b"]
  propertiesFile := some "lists/./more.txt"
  useFinal := some false
  output := none

/-- What the options make of the file. -/
theorem resolve_accepted_site :
    resolve site siteOptions = .ok (override siteConfig siteOptions) ∧
    validate (override siteConfig siteOptions).entries = .ok (override siteConfig siteOptions) ∧
    ¬ PackageUnchecked siteOptions (override siteConfig siteOptions).generation.packageName ∧
    (override siteConfig siteOptions).generation.packageName ≠ [] ∧
    (override siteConfig siteOptions).outputDir.IsNormal ∧
    ∀ p, (override siteConfig siteOptions).propertiesFile = some p → p.IsNormal := by
  have h : resolve site siteOptions = .ok (override siteConfig siteOptions) := by
    show (load site (.ofText "conf/brgen.yaml")).map (override · siteOptions) = _
    rw [load_site]
    rfl
  have hu : (override siteConfig siteOptions).generation.packageName.IsUnicode := by decide
  obtain ⟨⟨-, hvalid, -⟩, hchecked, hrest⟩ := resolve_accepted h
  exact ⟨h, hvalid.2 hu, fun hn => hchecked.2 hn hu, hrest⟩

/-- The package of the options is a stray byte. -/
def strayOptions : Options := { siteOptions with package := some [.surrogate 0x4ff] }

/-- A package that nothing has checked is refused when the configuration is validated. -/
theorem resolve_stray_package :
    resolve site strayOptions = .ok (override siteConfig strayOptions) ∧
    validate (override siteConfig strayOptions).entries =
      .error (packageReport [.surrogate 0x4ff]) := by
  have h : resolve site strayOptions = .ok (override siteConfig strayOptions) := by
    show (load site (.ofText "conf/brgen.yaml")).map (override · strayOptions) = _
    rw [load_site]
    rfl
  have hu : ¬ (override siteConfig strayOptions).generation.packageName.IsUnicode := by decide
  exact ⟨h, (valid_of_resolve h).1.validate.trans (if_neg hu)⟩

end Config

end BindingIndex
