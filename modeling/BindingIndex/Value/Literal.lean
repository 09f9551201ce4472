import BindingIndex.Decimal.Shortest
import BindingIndex.Text.Digits
import BindingIndex.Text.Printable
import BindingIndex.Text.Utf8
import BindingIndex.Value.Basic

/-!
# Literals

The text that stands for a value in a message: quoted texts with escapes, shortest floats, bracketed
containers. A container met inside itself is abbreviated.

* `Value.literal`: the text of a value.
* `Value.isPrintable`: whether a value has one; integers of very many digits have none.
* `Value.excerpt`: that text cut in the middle when it is long.
* `Value.typeName`: the name of the kind of value.
-/

namespace BindingIndex.Value

/-- Floats are positional from 0.0001 up to sixteen digits before the point; exponents have a sign
and at least two digits. -/
def floatStyle : Decimal.Style := ⟨3, 16, 2, "nan", "inf"⟩

/-- The quote around a text: the single one, unless only that one occurs in it. -/
def quoteFor (s : List Char) : Char :=
  if s.contains '\'' && !s.contains '"' then '"' else '\''

/-- A code point as an escape, of the shortest of the three widths that holds it. -/
def escapeCode (n : Nat) : List Char :=
  if n < 0x100 then '\\' :: 'x' :: Text.hex 2 n
  else if n < 0x10000 then '\\' :: 'u' :: Text.hex 4 n
  else '\\' :: 'U' :: Text.hex 8 n

def escapeChar (quote c : Char) : List Char :=
  if c = quote ∨ c = '\\' then ['\\', c]
  else if c = '\n' then ['\\', 'n']
  else if c = '\r' then ['\\', 'r']
  else if c = '\t' then ['\\', 't']
  else if Text.isPrintable c then [c]
  else escapeCode c.toNat

def escapeByte (quote : Char) (b : UInt8) : List Char :=
  let c := Char.ofNat b.toNat
  if 0x7F ≤ b.toNat then escapeCode b.toNat else escapeChar quote c

def quoted (s : String) : String :=
  let q := quoteFor s.toList
  String.ofList (q :: s.toList.flatMap (escapeChar q) ++ [q])

/-- A quoted text that may hold lone surrogates. -/
def quotedText (t : Text) : String :=
  let q := quoteFor t.shown
  let escape := fun
    | .char c => escapeChar q c
    | .surrogate n => escapeCode (CodePoint.surrogate n).toNat
  String.ofList (q :: t.flatMap escape ++ [q])

def quotedBytes (b : List UInt8) : String :=
  let q := quoteFor (b.map fun x => Char.ofNat x.toNat)
  String.ofList ('b' :: q :: b.flatMap (escapeByte q) ++ [q])

def call (name : String) (args : List String) : String :=
  "datetime." ++ name ++ "(" ++ ", ".intercalate args ++ ")"

/-- A duration: whole days and the seconds left over, each shown unless it is zero. -/
def durationLiteral (seconds : Int) : String :=
  let days := Int.fdiv seconds 86400
  let rest := seconds - days * 86400
  let parts := (if days = 0 then [] else ["days=" ++ toString days]) ++
    (if rest = 0 then [] else ["seconds=" ++ toString rest])
  call "timedelta" (if parts = [] then ["0"] else parts)

def offsetLiteral (seconds : Int) : String :=
  if seconds = 0 then "datetime.timezone.utc" else call "timezone" [durationLiteral seconds]

def dateParts (d : Date) : List String := [toString d.year, toString d.month, toString d.day]

/-- A moment: seconds are left out if they and the microseconds are zero. -/
def momentLiteral (m : Moment) : String :=
  let fraction :=
    if m.micro ≠ 0 then [toString m.second, toString m.micro]
    else if m.second ≠ 0 then [toString m.second]
    else []
  let zone := match m.offset with
    | some s => ["tzinfo=" ++ offsetLiteral s]
    | none => []
  call "datetime" (dateParts m.date ++ [toString m.hour, toString m.minute] ++ fraction ++ zone)

def isOpen (active : List Nat) : Option Nat → Bool
  | some l => active.contains l
  | none => false

mutual

/-- The literal of a value inside the containers whose labels are `active`. -/
def literalIn (active : List Nat) : Value → String
  | null => "None"
  | bool b => if b then "True" else "False"
  | int n => toString n
  | float x => Decimal.write floatStyle x
  | text s => quoted s
  | codes t => quotedText t
  | bytes b => quotedBytes b
  | date d => call "date" (dateParts d)
  | moment m => momentLiteral m
  | list label items =>
    if isOpen active label then "[...]"
    else "[" ++ ", ".intercalate (literals (label.toList ++ active) items) ++ "]"
  | tuple [item] => "(" ++ literalIn active item ++ ",)"
  | tuple items => "(" ++ ", ".intercalate (literals active items) ++ ")"
  | set [] => "set()"
  | set items => "\x7b" ++ ", ".intercalate (literals active items) ++ "\x7d"
  | dict label entries =>
    if isOpen active label then "\x7b...\x7d"
    else
      "\x7b" ++ ", ".intercalate (entryLiterals (label.toList ++ active) entries) ++ "\x7d"

def literals (active : List Nat) : List Value → List String
  | [] => []
  | v :: rest => literalIn active v :: literals active rest

def entryLiterals (active : List Nat) : List (Value × Value) → List String
  | [] => []
  | (k, v) :: rest =>
    (literalIn active k ++ ": " ++ literalIn active v) :: entryLiterals active rest

end

def literal (v : Value) : String := literalIn [] v

mutual

/-- Can the value be printed, all of its parts included? -/
def isPrintable : Value → Bool
  | int n => n.natAbs < Text.firstTooLong
  | list _ items => arePrintable items
  | tuple items => arePrintable items
  | set items => arePrintable items
  | dict _ entries => areEntriesPrintable entries
  | _ => true

def arePrintable : List Value → Bool
  | [] => true
  | v :: rest => isPrintable v && arePrintable rest

def areEntriesPrintable : List (Value × Value) → Bool
  | [] => true
  | (k, v) :: rest => isPrintable k && isPrintable v && areEntriesPrintable rest

end

/-- The longest start of a text that has at most `n` bytes. -/
def takeBytes : Nat → List Char → List Char
  | _, [] => []
  | n, c :: rest =>
    let k := (Text.Utf8.encodeChar c).length
    if k ≤ n then c :: takeBytes (n - k) rest else []

/-- A text of more than 50 bytes is cut to its first 25 and its last 24, whole characters only. -/
def abridge (s : String) : String :=
  if Text.Utf8.size s ≤ 50 then s
  else
    let cs := s.toList
    String.ofList (takeBytes 25 cs ++ ['.', '.', '.'] ++ (takeBytes 24 cs.reverse).reverse)

def typeName : Value → String
  | null => "NoneType"
  | bool _ => "bool"
  | int _ => "int"
  | float _ => "float"
  | text _ => "str"
  | codes _ => "str"
  | bytes _ => "bytes"
  | date _ => "date"
  | moment _ => "datetime"
  | list _ _ => "list"
  | tuple _ => "tuple"
  | set _ => "set"
  | dict _ _ => "dict"

def excerpt (v : Value) : String :=
  if v.isPrintable then abridge v.literal else "<unprintable " ++ v.typeName ++ " object>"

end BindingIndex.Value
