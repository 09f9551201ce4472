import BindingIndex.Config.Options
import BindingIndex.Proofs.Path.NormalForm
import BindingIndex.Proofs.Results

/-!
# The configuration of a run

With a configuration file the options are laid over the file's settings; without one they are the
whole configuration, `alone`. They pass validation as they are if the package is Unicode, their
paths too, since these are in normal form when they are handed over as texts
(`ofArguments_toArguments`).
-/

namespace BindingIndex.Config

/-- The configuration that options describe on their own, for a package. -/
def alone (packageName : Text) (o : Options) : Config where
  generation := ⟨packageName, o.useFinal.getD true⟩
  outputDir := (givenPath o.output).getD defaultOutputDir
  properties := o.properties
  propertiesFile := givenPath o.propertiesFile

theorem given_eq_some_iff {s : Option Text} {x : Text} :
    given s = some x ↔ s = some x ∧ x ≠ [] := by
  cases s with
  | none => simp [given]
  | some s =>
    by_cases hs : s = []
    · subst hs
      simp only [given, if_pos]
      constructor
      · simp
      · rintro ⟨h, hne⟩
        exact absurd (Option.some.inj h).symm hne
    · rw [given, if_neg hs, Option.some.injEq]
      exact ⟨fun h => ⟨h, h ▸ hs⟩, And.left⟩

theorem isNormal_givenPath {s : Option Text} {p : Path} (h : givenPath s = some p) :
    p.IsNormal := by
  obtain ⟨text, -, rfl⟩ := Option.map_eq_some_iff.1 h
  exact Path.isNormal_ofText text

theorem isNormal_defaultOutputDir : defaultOutputDir.IsNormal := by
  intro n hn
  obtain rfl := List.mem_singleton.1 hn
  decide

/-! ## Checks of values that are texts -/

theorem ofText_of_not_isUnicode {s : Text} (h : ¬ s.IsUnicode) : Value.ofText s = .codes s := by
  have hs : s.toString? = none := by
    cases hc : s.chars with
    | error f => rw [Text.toString?, hc]; rfl
    | ok cs => exact absurd (Text.chars_eq_ok_iff.1 hc ▸ Text.isUnicode_ofChars cs) h
  rw [Value.ofText, hs]

theorem check_text_ofText (place : List Step) (s : Text) :
    Check.text place (.ofText s) = .ok s := by
  by_cases h : s.IsUnicode
  · obtain ⟨s, rfl⟩ := Text.isUnicode_iff_exists.1 h
    rw [Value.ofText_ofString]
    rfl
  · rw [ofText_of_not_isUnicode h]
    rfl

theorem check_textsFrom (place : List Step) (ss : List Text) (i : Nat) :
    Check.textsFrom place i (ss.map .ofText) = .ok ss := by
  induction ss generalizing i with
  | nil => rfl
  | cons s ss ih =>
    rw [List.map_cons, Check.textsFrom, ih, check_text_ofText]
    rfl

theorem check_path_ofText (place : List Step) (s : Text) :
    Check.path place (.ofText s) = .ok (.ofText s) := by
  by_cases h : s.IsUnicode
  · obtain ⟨s, rfl⟩ := Text.isUnicode_iff_exists.1 h
    rw [Value.ofText_ofString]
    rfl
  · rw [ofText_of_not_isUnicode h]
    rfl

theorem check_path {p : Path} (place : List Step) (h : p.IsNormal) :
    Check.path place (.ofText p.toText) = .ok p := by
  rw [check_path_ofText, Path.ofText_toText h]

theorem check_optionalPath {p : Path} (place : List Step) (h : p.IsNormal) :
    Check.optionalPath place (.ofText p.toText) = .ok (some p) := by
  have hsome : Check.optionalPath place (.ofText p.toText) =
      (Check.path place (.ofText p.toText)).map some := by
    by_cases hu : p.toText.IsUnicode
    · obtain ⟨s, hs⟩ := Text.isUnicode_iff_exists.1 hu
      rw [hs, Value.ofText_ofString]
      rfl
    · rw [ofText_of_not_isUnicode hu]
      rfl
  rw [hsome, check_path place h]
  rfl

theorem check_propertiesFile (place : List Step) (o : Options) :
    Check.optionalPath place (Options.toArguments o).propertiesFile =
      .ok (givenPath o.propertiesFile) := by
  rw [Options.toArguments]
  cases hf : givenPath o.propertiesFile with
  | none => rfl
  | some p => exact check_optionalPath place (isNormal_givenPath hf)

/-- What the check of a package name that is a text comes to. -/
def checkedName (place : List Step) (packageName : Text) : Checked Text :=
  if packageName.IsUnicode then .ok packageName
  else Check.fail place .notUtf8 (.codes packageName)

theorem check_packageName {packageName : Text} (h : packageName ≠ []) (place : List Step) :
    Check.packageName place (.ofText packageName) = checkedName place packageName := by
  by_cases hu : packageName.IsUnicode
  · obtain ⟨s, rfl⟩ := Text.isUnicode_iff_exists.1 hu
    rw [Value.ofText_ofString, checkedName, if_pos hu]
    exact if_neg h
  · rw [ofText_of_not_isUnicode hu, checkedName, if_neg hu]
    rfl

theorem check_generationFields {packageName : Text} (h : packageName ≠ []) (useFinal : Bool)
    (place : List Step) (label : Option Nat) :
    Check.generationFields place label [(.text "package_name", .ofText packageName),
      (.text "use_final", .bool useFinal)] =
        (checkedName (place ++ [.field "package_name"]) packageName).map fun p =>
          ⟨p, useFinal⟩ := by
  have hreq : Check.required place [(.text "package_name", .ofText packageName),
      (.text "use_final", .bool useFinal)] label "package_name" Check.packageName =
      checkedName (place ++ [.field "package_name"]) packageName := check_packageName h _
  rw [Check.generationFields, hreq]
  cases checkedName (place ++ [.field "package_name"]) packageName with
  | ok p => rfl
  | error fs => exact congrArg Except.error (List.append_nil fs)

theorem validateGeneration_ofText {packageName : Text} (h : packageName ≠ []) (useFinal : Bool) :
    validateGeneration [(.text "package_name", .ofText packageName),
      (.text "use_final", .bool useFinal)] =
        report .generation ((checkedName [.field "package_name"] packageName).map fun p =>
          ⟨p, useFinal⟩) := by
  rw [validateGeneration, check_generationFields h]
  rfl

theorem validateGeneration_ofText_ok_iff {packageName : Text} (h : packageName ≠ [])
    (useFinal : Bool) :
    validateGeneration [(.text "package_name", .ofText packageName),
      (.text "use_final", .bool useFinal)] = .ok ⟨packageName, useFinal⟩ ↔
        packageName.IsUnicode := by
  rw [validateGeneration_ofText h, checkedName]
  by_cases hu : packageName.IsUnicode
  · rw [if_pos hu]
    exact iff_of_true rfl hu
  · rw [if_neg hu]
    exact iff_of_false (fun h => nomatch h) hu

theorem validateOutput_ofText {p : Path} (h : p.IsNormal) :
    validateOutput [(.text "output_dir", .ofText p.toText)] = .ok p := by
  have hout : Check.outputFields [] [(.text "output_dir", .ofText p.toText)] = .ok p :=
    check_path [.field "output_dir"] h
  rw [validateOutput, hout]
  rfl

theorem itemsOf_texts (ss : List Text) :
    itemsOf (.list none (ss.map .ofText)) = .ok (ss.map .ofText) := by
  cases ss <;> rfl

/-! ## Options without a configuration file -/

theorem isTruthy_ofText {s : Text} (h : s ≠ []) : (Value.ofText s).isTruthy = true := by
  by_cases hu : s.IsUnicode
  · obtain ⟨s, rfl⟩ := Text.isUnicode_iff_exists.1 hu
    rw [Value.ofText_ofString]
    exact decide_eq_true fun he => h (Text.ofString_eq_nil.2 he)
  · rw [ofText_of_not_isUnicode hu]
    exact decide_eq_true h

/-- Why a package that is not Unicode is refused. -/
def notUnicode (packageName : Text) : Failure :=
  .config (.invalid ⟨.generation, [⟨[.field "package_name"], .notUtf8, .codes packageName⟩]⟩)

/-- **Options that name a package** are a configuration, if the package is Unicode. -/
theorem ofArguments_toArguments {o : Options} {packageName : Text}
    (h : given o.package = some packageName) :
    ofArguments (Options.toArguments o) =
      if packageName.IsUnicode then .ok (alone packageName o)
      else .error (notUnicode packageName) := by
  obtain ⟨hp, hne⟩ := given_eq_some_iff.1 h
  have hname : (Options.toArguments o).packageName = .ofText packageName := by
    rw [Options.toArguments, hp]
  have htruthy := isTruthy_ofText hne
  have hout : ((givenPath o.output).getD defaultOutputDir).IsNormal := by
    cases hg : givenPath o.output with
    | none => exact isNormal_defaultOutputDir
    | some p => exact isNormal_givenPath hg
  have htexts : Check.texts [.field "properties"] (.list none (o.properties.map .ofText)) =
      .ok o.properties := check_textsFrom _ _ _
  have hgen := validateGeneration_ofText hne (o.useFinal.getD true)
  have hdir := validateOutput_ofText hout
  have hitems := itemsOf_texts o.properties
  have hfile := check_propertiesFile [.field "properties_file"] o
  rw [ofArguments, hname, htruthy, hfile]
  simp only [Options.toArguments, hgen, hdir, hitems, htexts, orInvalid, bind, Except.bind,
    Bool.not_true, Bool.false_eq_true, if_false]
  by_cases hu : packageName.IsUnicode
  · rw [checkedName, if_pos hu, if_pos hu]
    rfl
  · rw [checkedName, if_neg hu, if_neg hu]
    rfl

theorem ofArguments_toArguments_none {o : Options} (h : given o.package = none) :
    ofArguments (Options.toArguments o) = .error (.config .packageRequired) := by
  have hfalse : (Options.toArguments o).packageName.isTruthy = false := by
    rw [Options.toArguments]
    cases hp : o.package with
    | none => rfl
    | some s =>
      by_cases hs : s = []
      · subst hs
        rfl
      · rw [hp, given, if_neg hs] at h
        cases h
  rw [ofArguments, hfalse]
  rfl

end BindingIndex.Config
