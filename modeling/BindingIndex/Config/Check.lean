import BindingIndex.Config.Basic
import BindingIndex.Config.Fault
import BindingIndex.Text.Blank

/-!
# Validation

Every field has a check of its own, which either gives the field's value or lists its faults. The
checks of a section are joined so that no fault hides another; unknown keys are ignored.

* `Check.text`, `Check.bool`, `Check.path`, …: the checks of single values.
* `Check.generation`, `Check.output`, `Check.whole`: the checks of sections and of a configuration.
* `Config.validate`: a configuration from the entries of a mapping.
-/

namespace BindingIndex.Config

/-- The outcome of a check: a value, or the faults that were found. -/
abbrev Checked (α : Type) := Except (List Fault) α

namespace Check

def fail {α : Type} (place : List Step) (kind : FaultKind) (input : Value) : Checked α :=
  .error [⟨place, kind, input⟩]

def faults {α : Type} : Checked α → List Fault
  | .ok _ => []
  | .error fs => fs

/-- Both values, or the faults of both checks in order. -/
def both {α β : Type} (x : Checked α) (y : Checked β) : Checked (α × β) :=
  match x, y with
  | .ok a, .ok b => .ok (a, b)
  | x, y => .error (faults x ++ faults y)

/-- A text, or bytes that hold one. -/
def text (place : List Step) : Value → Checked Text
  | .text s => .ok s
  | .codes t => .ok t
  | .bytes b =>
    match Text.Utf8.decode b with
    | .ok s => .ok (.ofChars s)
    | .error _ => fail place .notUtf8 (.bytes b)
  | v => fail place .notText v

/-- A text that is not empty. To measure it, it has to be Unicode. -/
def packageName (place : List Step) : Value → Checked Text
  | .codes t => fail place .notUtf8 (.codes t)
  | v =>
    match text place v with
    | .ok s => if s = [] then fail place .emptyText v else .ok s
    | .error fs => .error fs

/-- The words that stand for truth values, in lower case. -/
def boolWord? (s : List Char) : Option Bool :=
  let w := String.ofList (s.map Text.lowerAscii)
  if ["0", "off", "f", "false", "n", "no"].contains w then some false
  else if ["1", "on", "t", "true", "y", "yes"].contains w then some true
  else none

/-- The first integer above 63 bits. -/
def wordLimit : Int := 9223372036854775808

/-- The range of integers that may stand for a truth value at all: 64 bits with a sign. -/
def inWordRange (n : Int) : Bool := -wordLimit ≤ n && n < wordLimit

def boolText (place : List Step) (v : Value) (s : List Char) : Checked Bool :=
  match boolWord? s with
  | some b => .ok b
  | none => fail place .unknownBoolWord v

/-- A truth value, or a word, an integer or a whole float that stands for one. -/
def bool (place : List Step) (v : Value) : Checked Bool :=
  match v with
  | .bool b => .ok b
  | .text s => boolText place v s.toList
  | .codes _ => fail place .notUtf8 v
  | .bytes b =>
    match Text.Utf8.decode b with
    | .ok s => boolText place v s
    | .error _ => fail place .unknownBoolWord v
  | .int n =>
    if n = 0 then .ok false
    else if n = 1 then .ok true
    -- beyond 64 bits an integer is not even tried as a word
    else if inWordRange n then fail place .unknownBoolWord v
    else fail place .notBool v
  | .float x =>
    match (Decimal.Binary64.ofFloat x).whole? with
    | none => fail place .notBool v
    | some n =>
      if n = 0 then .ok false
      else if n = 1 then .ok true
      -- as a float the least integer of the range is out of it
      else if inWordRange n && n ≠ -wordLimit then fail place .unknownBoolWord v
      else fail place .notBool v
  | _ => fail place .notBool v

def path (place : List Step) : Value → Checked Path
  | .text s => .ok (.ofText s)
  | .codes t => .ok (.ofText t)
  | v => fail place .notPath v

def optionalPath (place : List Step) : Value → Checked (Option Path)
  | .null => .ok none
  | v => (path place v).map some

/-- The items of a list, each a text, numbered from `i` on. -/
def textsFrom (place : List Step) (i : Nat) : List Value → Checked (List Text)
  | [] => .ok []
  | v :: rest =>
    (both (text (place ++ [.item i]) v) (textsFrom place (i + 1) rest)).map fun (s, ss) => s :: ss

def texts (place : List Step) : Value → Checked (List Text)
  | .list _ items => textsFrom place 0 items
  | .tuple items => textsFrom place 0 items
  | .set items => textsFrom place 0 items
  | v => fail place .notList v

/-- The entry of a mapping under a name, by a check of its own. -/
def optional {α : Type} (place : List Step) (entries : List (Value × Value)) (name : String)
    (default : α) (check : List Step → Value → Checked α) : Checked α :=
  match Value.lookup name entries with
  | some v => check (place ++ [.field name]) v
  | none => .ok default

/-- The same for an entry that has to be there; without it the whole mapping is at fault. -/
def required {α : Type} (place : List Step) (entries : List (Value × Value)) (label : Option Nat)
    (name : String) (check : List Step → Value → Checked α) : Checked α :=
  match Value.lookup name entries with
  | some v => check (place ++ [.field name]) v
  | none => fail (place ++ [.field name]) .missing (.dict label entries)

def generationFields (place : List Step) (label : Option Nat) (entries : List (Value × Value)) :
    Checked Generation :=
  (both (required place entries label "package_name" packageName)
    (optional place entries "use_final" true bool)).map fun (p, f) => ⟨p, f⟩

def generation (place : List Step) : Value → Checked Generation
  | .dict label entries => generationFields place label entries
  | v => fail place (.notSection .generation) v

def outputFields (place : List Step) (entries : List (Value × Value)) : Checked Path :=
  optional place entries "output_dir" defaultOutputDir path

def output (place : List Step) : Value → Checked Path
  | .dict _ entries => outputFields place entries
  | v => fail place (.notSection .output) v

def whole (entries : List (Value × Value)) : Checked Config :=
  (both (required [] entries none "generation" generation)
    (both (optional [] entries "output" defaultOutputDir output)
      (both (optional [] entries "properties" [] texts)
        (optional [] entries "properties_file" none optionalPath)))).map
    fun (g, o, ps, f) => ⟨g, o, ps, f⟩

end Check

def report {α : Type} (subject : Subject) : Checked α → Except Report α
  | .ok a => .ok a
  | .error fs => .error ⟨subject, fs⟩

def validateGeneration (entries : List (Value × Value)) : Except Report Generation :=
  report .generation (Check.generationFields [] none entries)

def validateOutput (entries : List (Value × Value)) : Except Report Path :=
  report .output (Check.outputFields [] entries)

def validate (entries : List (Value × Value)) : Except Report Config :=
  report .whole (Check.whole entries)

end BindingIndex.Config
