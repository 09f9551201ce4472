import BindingIndex.ClassText
import BindingIndex.Path
import BindingIndex.Value.Basic

/-!
# Configurations

* `Config`: the settings of a run, all of them valid.
* `Config.toValue`: the field values of a configuration, as data that can be validated again.
-/

namespace BindingIndex

/-- The settings of a run. -/
structure Config where
  generation : Generation
  outputDir : Path
  properties : List Text
  propertiesFile : Option Path
  deriving DecidableEq, Repr

namespace Config

/-- The output root that is used when none is given. -/
def defaultOutputDir : Path := ⟨.relative, ["generated"]⟩

def generationValue (g : Generation) : Value :=
  .record [("package_name", .ofText g.packageName), ("use_final", .bool g.useFinal)]

def outputValue (outputDir : Path) : Value :=
  .record [("output_dir", .ofText outputDir.toText)]

/-- A configuration as data. -/
def toValue (c : Config) : Value :=
  .record [("generation", generationValue c.generation), ("output", outputValue c.outputDir),
    ("properties", .list none (c.properties.map .ofText)),
    ("properties_file", match c.propertiesFile with
      | some p => .ofText p.toText
      | none => .null)]

end Config

end BindingIndex
