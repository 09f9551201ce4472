import BindingIndex.Config.Check

/-!
# Drafts

A draft holds the fields of a section and takes new field values unchecked. Generation settings
cannot be set in place, only copied with changes.

* `Draft.ofGeneration`, `Draft.ofOutput`, `Draft.ofConfig`: the drafts of valid settings.
* `Draft.set`, `Draft.update`: change fields without validation.
* `Draft.equal`: whether two drafts hold equal fields.
-/

namespace BindingIndex.Config

inductive Slot where
  | raw (v : Value)
  | path (p : Path)
  | draft (subject : Subject) (fields : List (String × Slot))

structure Draft where
  subject : Subject
  fields : List (String × Slot)

inductive EditError where
  | frozen (report : Report)
  | unknownField (subject : Subject) (field : String)
  /-- The name stands for something that the draft tells by itself. -/
  | derived (subject : Subject) (name : String)
  /-- The kind of a draft cannot be replaced by a value. -/
  | notClass (v : Value)
  /-- Only a mapping can replace all fields. -/
  | notFields (v : Value)

namespace Draft

def ofGeneration (g : Generation) : Draft :=
  ⟨.generation,
    [("package_name", .raw (.ofText g.packageName)), ("use_final", .raw (.bool g.useFinal))]⟩

def ofOutput (outputDir : Path) : Draft := ⟨.output, [("output_dir", .path outputDir)]⟩

/-- A draft as the content of a field. -/
def toSlot (d : Draft) : Slot := .draft d.subject d.fields

def ofConfig (c : Config) : Draft :=
  ⟨.whole,
    [("generation", (ofGeneration c.generation).toSlot), ("output", (ofOutput c.outputDir).toSlot),
      ("properties", .raw (.list none (c.properties.map .ofText))),
      ("properties_file", match c.propertiesFile with
        | some p => .path p
        | none => .raw .null)]⟩

/-- The draft of a subject's data, if it is valid. -/
def ofEntries (subject : Subject) (entries : List (Value × Value)) : Except Report Draft :=
  match subject with
  | .generation => (validateGeneration entries).map ofGeneration
  | .output => (validateOutput entries).map ofOutput
  | .whole => (validate entries).map ofConfig

def replace (name : String) (v : Slot) (fields : List (String × Slot)) : List (String × Slot) :=
  fields.map fun (n, old) => if n = name then (n, v) else (n, old)

/-- Is the name one for a note beside the fields? Such names start with an underscore. -/
def isNote (name : String) : Bool := name.toList.head? = some '_'

/-- Make a note, which is no part of the draft. Three names of the same form stand for something
that the draft tells by itself. -/
def note (d : Draft) (name : String) (v : Value) : Except EditError Draft :=
  match name, v with
  | "__class__", v => .error (.notClass v)
  | "__dict__", .dict _ _ => .ok d
  | "__dict__", v => .error (.notFields v)
  | "__fields_set__", _ => .error (.derived d.subject name)
  | _, _ => .ok d

/-- What a draft that can be changed tells by itself. -/
def derivedNames : List String := ["model_extra", "model_fields_set"]

def set (d : Draft) (name : String) (v : Value) : Except EditError Draft :=
  if isNote name then d.note name v
  else if d.subject = .generation then
    .error (.frozen ⟨.generation, [⟨[.field name], .frozen, v⟩]⟩)
  else if d.subject.fields.contains name then
    .ok { d with fields := replace name (.raw v) d.fields }
  else if derivedNames.contains name then .error (.derived d.subject name)
  else .error (.unknownField d.subject name)

def update (d : Draft) (changes : List (String × Value)) : Draft :=
  { d with fields := changes.foldl (fun fs (n, v) => replace n (.raw v) fs) d.fields }

mutual

/-- Are two values equal? Numbers are compared by value, mappings without regard to order. -/
def equalValues : Value → Value → Bool
  | .list _ xs, .list _ ys => equalLists xs ys
  | .tuple xs, .tuple ys => equalLists xs ys
  | .set xs, .set ys => xs.length == ys.length && xs.all fun x => ys.any (Value.sameKey x)
  | .dict _ xs, .dict _ ys => xs.length == ys.length && coveredBy ys xs
  | .float x, .float y => x == y
  | v, w => Value.sameKey v w

def equalLists : List Value → List Value → Bool
  | [], [] => true
  | x :: xs, y :: ys => equalValues x y && equalLists xs ys
  | _, _ => false

/-- Does every entry have an equal one in `ys`? -/
def coveredBy (ys : List (Value × Value)) : List (Value × Value) → Bool
  | [] => true
  | (k, v) :: rest =>
    (match ys.find? fun (l, _) => Value.sameKey k l with
      | some (_, w) => equalValues v w
      | none => false) && coveredBy ys rest

end

mutual

/-- Do two fields hold the same? A path differs from the text that spells it. -/
def equalSlots : Slot → Slot → Bool
  | .raw v, .raw w => equalValues v w
  | .path p, .path q => p == q
  | .draft s xs, .draft t ys => s == t && equalFields xs ys
  | _, _ => false

def equalFields : List (String × Slot) → List (String × Slot) → Bool
  | [], [] => true
  | (n, x) :: xs, (m, y) :: ys => n == m && equalSlots x y && equalFields xs ys
  | _, _ => false

end

def equal (d e : Draft) : Bool := equalSlots d.toSlot e.toSlot

end Draft

def EditError.message : EditError → String
  | frozen r => r.message
  | unknownField s name => "\"" ++ s.name ++ "\" object has no field \"" ++ name ++ "\""
  | derived s name =>
    "property " ++ Value.quoted name ++ " of '" ++ s.name ++ "' object has no setter"
  | notClass v => "__class__ must be set to a class, not '" ++ v.typeName ++ "' object"
  | notFields v => "__dict__ must be set to a dictionary, not a '" ++ v.typeName ++ "'"

end BindingIndex.Config
