import BindingIndex.IndexTable
import BindingIndex.Source.Program
import BindingIndex.Text.Digits

/-!
# The text of an index class

The class declares one integer constant for every entry of a table, after the constant `_all = 0`
that stands for all properties at once. An entry of that name is refused, and an index of too many
digits cannot be written.

* `Index`: the integer of a constant, which may be a truth value.
* `ClassText.fault?`: why an entry cannot be declared.
* `ClassText.classProgram`: the class as a nested source program, which gives up at such an entry.
* `ClassText.classText`, `ClassText.emit`: the class body and the whole file.
* `ClassText.render`: number a list of names and emit their class.
-/

namespace BindingIndex

/-- The settings that shape the emitted text. -/
structure Generation where
  packageName : Text
  useFinal : Bool
  deriving DecidableEq, Repr

/-- The integer of a constant. A truth value is one too, but it is written as a word. -/
inductive Index where
  | number (n : Int)
  | truth (b : Bool)
  deriving DecidableEq, Repr

namespace Index

/-- The integer that is meant. -/
def toInt : Index → Int
  | number n => n
  | truth b => b.toInt

instance : ToString Index where
  toString
    | number n => toString n
    | truth true => "True"
    | truth false => "False"

instance : Coe Int Index := ⟨number⟩

instance (n : Nat) : OfNat Index n := ⟨number n⟩

end Index

/-- An entry of an index table, to be declared. -/
def Entry.declared (e : Entry Text) : Entry Text Index := ⟨e.name, e.index⟩

instance : Coe (List (Entry Text)) (List (Entry Text Index)) := ⟨List.map Entry.declared⟩

namespace ClassText

def className : String := "BR"

/-- The constant that stands for all properties. -/
def allProperties : String := "_all"

def allIndex : Index := 0

inductive Fault where
  /-- The entry has the reserved name. -/
  | reserved
  /-- The index has more digits than are ever written. -/
  | tooManyDigits
  deriving DecidableEq, Repr

def Fault.message : Fault → String
  | reserved =>
    "Property name '" ++ allProperties ++ "' is reserved for the all-properties constant (index "
      ++ toString allIndex ++ ")"
  | tooManyDigits => Text.digitsComplaint ""

def fault? (e : Entry Text Index) : Option Fault :=
  if e.name = allProperties then some .reserved
  else if Text.firstTooLong ≤ e.index.toInt.natAbs then some .tooManyDigits
  else none

def constant (name : Text) (value : Index) (final : Bool) : Text :=
  "public static " ++ (if final then "final " else "") ++ "int " ++ name ++ " = "
    ++ toString value ++ ";"

/-- The statements that declare an entry: none is possible for one at fault. -/
def declare (final : Bool) (e : Entry Text Index) : Source.Stmt Fault :=
  match fault? e with
  | some f => .abort f
  | none => .line (constant e.name e.index final)

/-- The class of a table as a source program. -/
def classProgram (table : List (Entry Text Index)) (final : Bool) : Source.Stmt Fault :=
  .block ("public class " ++ className)
    (.line (constant allProperties allIndex final) :: table.map (declare final))

def classText (table : List (Entry Text Index)) (final : Bool) : Except Fault Text :=
  match (classProgram table final).run (.new Source.Builder.defaultIndent) with
  | (b, none) => .ok b.generate
  | (_, some f) => .error f

def packageHeader (packageName : Text) : Text := "package " ++ packageName ++ ";\n"

def emit (table : List (Entry Text Index)) (g : Generation) : Except Fault Text :=
  (classText table g.useFinal).map (packageHeader g.packageName ++ ·)

def render (names : List Text) (g : Generation) : Except Fault Text :=
  emit (IndexTable.ofNames names) g

end ClassText

end BindingIndex
