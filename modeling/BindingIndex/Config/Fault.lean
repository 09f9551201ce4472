import BindingIndex.Value.Literal

/-!
# Validation faults

A fault says where in the data a check failed, which check it was and what the data held there. A
report lists the faults of one validation in the order in which its fields are declared.

* `Subject`: what is validated, a whole configuration or one of its sections.
* `Fault`, `FaultKind`, `Report`: the faults.
* `Report.message`: their text.
-/

namespace BindingIndex.Config

/-- What a validation is about. -/
inductive Subject where
  | generation
  | output
  | whole
  deriving DecidableEq, Repr

def Subject.name : Subject → String
  | generation => "GenerationConfig"
  | output => "OutputConfig"
  | whole => "BRGenConfig"

def Subject.fields : Subject → List String
  | generation => ["package_name", "use_final"]
  | output => ["output_dir"]
  | whole => ["generation", "output", "properties", "properties_file"]

/-- The check that failed. -/
inductive FaultKind where
  | missing
  | notText
  | notUtf8
  | emptyText
  | notBool
  | unknownBoolWord
  | notList
  | notSection (s : Subject)
  | notPath
  | frozen
  deriving DecidableEq, Repr

namespace FaultKind

def code : FaultKind → String
  | missing => "missing"
  | notText => "string_type"
  | notUtf8 => "string_unicode"
  | emptyText => "string_too_short"
  | notBool => "bool_type"
  | unknownBoolWord => "bool_parsing"
  | notList => "list_type"
  | notSection _ => "model_type"
  | notPath => "path_type"
  | frozen => "frozen_instance"

def message : FaultKind → String
  | missing => "Field required"
  | notText => "Input should be a valid string"
  | notUtf8 => "Input should be a valid string, unable to parse raw data as a unicode string"
  | emptyText => "String should have at least 1 character"
  | notBool => "Input should be a valid boolean"
  | unknownBoolWord => "Input should be a valid boolean, unable to interpret input"
  | notList => "Input should be a valid list"
  | notSection s => "Input should be a valid dictionary or instance of " ++ s.name
  | notPath => "Input is not a valid path for <class 'pathlib.Path'>"
  | frozen => "Instance is frozen"

/-- Is there a page that explains the check? -/
def hasPage : FaultKind → Bool
  | notPath => false
  | _ => true

end FaultKind

/-- A step from data to a part of it. -/
inductive Step where
  | field (name : String)
  | item (index : Nat)
  deriving DecidableEq, Repr

def Step.toString : Step → String
  | field name => name
  | item index => ToString.toString index

structure Fault where
  place : List Step
  kind : FaultKind
  input : Value

namespace Fault

def page (k : FaultKind) : String := "https://errors.pydantic.dev/2.14/v/" ++ k.code

def lines (f : Fault) : List String :=
  [".".intercalate (f.place.map Step.toString),
    "  " ++ f.kind.message ++ " [type=" ++ f.kind.code ++ ", input_value=" ++ f.input.excerpt ++
      ", input_type=" ++ f.input.typeName ++ "]"] ++
    (if f.kind.hasPage then ["    For further information visit " ++ page f.kind] else [])

end Fault

structure Report where
  subject : Subject
  faults : List Fault

def Report.message (r : Report) : String :=
  let n := r.faults.length
  let head := toString n ++ " validation error" ++ (if n = 1 then "" else "s") ++ " for " ++
    r.subject.name
  "\n".intercalate (head :: r.faults.flatMap Fault.lines)

end BindingIndex.Config
