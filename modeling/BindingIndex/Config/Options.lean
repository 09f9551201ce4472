import BindingIndex.Config.File

/-!
# Options

Options given for a run take precedence over a configuration file; without a file they are the whole
configuration. An empty text counts as not given.

* `Arguments`, `Config.ofArguments`: a configuration from arguments alone.
* `Options`, `Config.resolve`: the configuration of a run.
* `Config.propertyNames`: the names that a configuration lists, inline and in its properties file.
-/

namespace BindingIndex

structure Arguments where
  packageName : Value
  properties : Value
  propertiesFile : Value
  useFinal : Value
  outputDir : Value

structure Options where
  config : Option Text
  package : Option Text
  properties : List Text
  propertiesFile : Option Text
  useFinal : Option Bool
  output : Option Text
  deriving DecidableEq, Repr

namespace Config

/-- The items of a value: those of a container, the keys of a mapping, the characters of a text. A
value that counts as not given has none. -/
def itemsOf (v : Value) : Except Failure (List Value) :=
  if !v.isTruthy then .ok []
  else
    match v with
    | .list _ items => .ok items
    | .tuple items => .ok items
    | .set items => .ok items
    | .dict _ es => .ok (es.map (·.1))
    | .text s => .ok (s.toList.map fun c => .text (String.singleton c))
    | .codes t => .ok (t.map fun p => .ofText [p])
    | .bytes b => .ok (b.map fun x => .int x.toNat)
    | v => .error (.notIterable v.typeName)

def orInvalid {α : Type} : Except Report α → Except Failure α
  | .ok a => .ok a
  | .error r => .error (.config (.invalid r))

/-- A configuration from arguments alone. The generation settings are validated first, then the
output settings, then the rest. -/
def ofArguments (a : Arguments) : Except Failure Config :=
  if !a.packageName.isTruthy then .error (.config .packageRequired)
  else do
    let g ← orInvalid (validateGeneration
      [(.text "package_name", a.packageName), (.text "use_final", a.useFinal)])
    let o ← orInvalid (validateOutput [(.text "output_dir", a.outputDir)])
    let items ← itemsOf a.properties
    -- these two are checked together, so one report has the faults of both
    let (ps, f) ← orInvalid (report .whole (Check.both
      (Check.texts [.field "properties"] (.list none items))
      (Check.optionalPath [.field "properties_file"] a.propertiesFile)))
    return ⟨g, o, ps, f⟩

/-- A text that is given: present and not empty. -/
def given : Option Text → Option Text
  | some s => if s = [] then none else some s
  | none => none

/-- A path that is given, in normal form. -/
def givenPath (s : Option Text) : Option Path := (given s).map Path.ofText

/-- A configuration with the options that are given in place of its own settings; the properties
are added to its own. -/
def override (c : Config) (o : Options) : Config :=
  { generation :=
      { packageName := (given o.package).getD c.generation.packageName
        useFinal := o.useFinal.getD c.generation.useFinal }
    outputDir := (givenPath o.output).getD c.outputDir
    properties := c.properties ++ o.properties
    propertiesFile := (givenPath o.propertiesFile).or c.propertiesFile }

def Options.toArguments (o : Options) : Arguments where
  packageName := match o.package with
    | some s => .ofText s
    | none => .null
  properties := .list none (o.properties.map .ofText)
  propertiesFile := match givenPath o.propertiesFile with
    | some p => .ofText p.toText
    | none => .null
  useFinal := .bool (o.useFinal.getD true)
  outputDir := .ofText ((givenPath o.output).getD defaultOutputDir).toText

def resolve (t : FileTree) (o : Options) : Except Failure Config :=
  match given o.config with
  | some path => (load t (.ofText path)).map (override · o)
  | none => ofArguments (Options.toArguments o)

def listFailure : PropertyList.Fault → Failure
  | .missing p => .config (.listNotFound p)
  | .unreadable p why => .config (.listUnreadable p why)
  | .unanswered e => .file e

/-- The names that a configuration lists, inline first. -/
def propertyNames (t : FileTree) (c : Config) : Except Failure (List Text) :=
  match c.propertiesFile with
  | none => .ok c.properties
  | some p =>
    match PropertyList.read t p with
    | .ok names => .ok (c.properties ++ names.map Text.ofString)
    | .error f => .error (listFailure f)

end Config

end BindingIndex
