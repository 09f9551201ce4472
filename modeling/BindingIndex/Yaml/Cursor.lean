import BindingIndex.Text.Basic
import BindingIndex.Text.Utf8

/-!
# Cursors

A place in a document: the characters from there on, with index, line and column. A NUL stands for
the end of the document, in which it cannot occur. A document may break off where it cannot be read
any further; that is a fault only for a step that looks so far.

* `Yaml.Fault`: why a document has no value.
* `Scan`: steps that move a cursor or fail.
* `Scan.ahead`, `Scan.skip`: look ahead and move on.
* `Scan.lineBreak`: consume one line break, as the text it stands for.
-/

namespace BindingIndex.Yaml

/-- Why a document has no value. Only the first kind is an error of the format. The second is one of
the bytes behind the document, and the others are texts that no value is written with. -/
inductive Fault where
  | malformed
  | unreadable (f : Text.Utf8.Fault)
  /-- A numbered escape beyond the last code point. -/
  | codePoint (n : Nat)
  /-- A decimal number of more digits than are allowed. -/
  | tooManyDigits (count : Nat)
  | integer (text : Text) (base : Nat)
  | float (text : Text)
  /-- A group in base 60 that is worth more than any float. -/
  | hugeWorth
  | truth (word : Text)
  | emptyNumber
  | timestamp
  /-- A mapping that stands for the text of a point in time. -/
  | timestampMapping
  /-- A mapping that stands for its own text. -/
  | endless
  | calendar (complaint : String)
  deriving DecidableEq, Repr

/-- A place in a document: the characters at hand, the fault behind the last one if there is one,
the number of characters in all and where the place is. A cursor stands on a character that can be
read or at the end. -/
structure Cursor where
  rest : List Char
  beyond : Option Fault
  size : Nat
  index : Nat
  line : Nat
  column : Nat
  deriving Repr

/-- What stands for the end of the document. -/
def eof : Char := '\x00'

def isBreak (c : Char) : Bool :=
  c == '\r' || c == '\n' || c == '\x85' || c == '\u2028' || c == '\u2029'

def isBreakOrEnd (c : Char) : Bool := c == eof || isBreak c

def isSpaceOrEnd (c : Char) : Bool := c == ' ' || isBreakOrEnd c

def isBlankOrEnd (c : Char) : Bool := c == '\t' || isSpaceOrEnd c

def isInlineBlank (c : Char) : Bool := c == ' ' || c == '\t'

/-- A character of a name: of an anchor, a directive or a tag handle. -/
def isNameChar (c : Char) : Bool := c.isAlphanum || c == '-' || c == '_'

def isHexDigit (c : Char) : Bool :=
  c.isDigit || ('a' ≤ c && c ≤ 'f') || ('A' ≤ c && c ≤ 'F')

/-- The value of a digit in any base up to 36, upper and lower case alike. -/
def digitValue (c : Char) : Nat :=
  if c.isDigit then c.toNat - 48
  else if 'a' ≤ c ∧ c ≤ 'z' then c.toNat - 87
  else c.toNat - 55

namespace Cursor

def start (text : List Char) (beyond : Option Fault) : Cursor :=
  ⟨text, beyond, text.length, 0, 0, 0⟩

def peek (c : Cursor) : Char := c.rest.headD eof

def advance (c : Cursor) : Cursor :=
  match c.rest with
  | [] => c
  | ch :: rest =>
    -- of a carriage return and a line feed only the second ends the line
    if isBreak ch && !(ch == '\r' && rest.headD eof == '\n') then
      { c with rest := rest, index := c.index + 1, line := c.line + 1, column := 0 }
    else
      { c with
        rest := rest
        index := c.index + 1
        column := if ch == '\ufeff' then c.column else c.column + 1 }

def skip : Nat → Cursor → Cursor
  | 0, c => c
  | n + 1, c => skip n c.advance

/-- What a step meets that looks past the characters at hand: the end, or the fault there. -/
def atEnd (c : Cursor) : Except Fault Unit :=
  match c.beyond with
  | some f => .error f
  | none => .ok ()

def ahead (c : Cursor) (k : Nat) : Except Fault Char :=
  match c.rest[k]? with
  | some ch => .ok ch
  | none => c.atEnd.map fun () => eof

def run (c : Cursor) (p : Char → Bool) : Nat := (c.rest.takeWhile p).length

/-- The cursor `n` characters on, on a character that can be read or at the end. -/
def moved (c : Cursor) (n : Nat) : Except Fault Cursor :=
  let c := c.skip n
  (c.ahead 0).map fun _ => c

/-- Does a document marker stand at the cursor: three dashes or three points, then a blank? -/
def atMarker (c : Cursor) : Except Fault Bool := do
  discard (c.ahead 2)
  if c.rest.take 3 == ['-', '-', '-'] || c.rest.take 3 == ['.', '.', '.'] then
    return isBlankOrEnd (← c.ahead 3)
  else return false

end Cursor

abbrev Scan := StateT Cursor (Except Fault)

namespace Scan

def peek : Scan Char := return (← get).peek

def ahead (k : Nat) : Scan Char := do (← get).ahead k

def atMarker : Scan Bool := do (← get).atMarker

/-- A bound for the number of steps of a loop that moves the cursor. -/
def fuel : Scan Nat := return (← get).size + 1

def skip (n : Nat) : Scan Unit := do set (← (← get).moved n)

def reject {α : Type} : Scan α := throw .malformed

def expect (p : Char → Bool) : Scan Unit := do
  if p (← peek) then pure () else reject

def take (n : Nat) : Scan (List Char) := do
  let c ← get
  skip n
  return c.rest.take n

def takeRun (p : Char → Bool) : Scan (List Char) := do take ((← get).run p)

/-- Consume one line break, if there is one, as the text it stands for: a line feed, or itself for
the two separators of their own. -/
def lineBreak : Scan (List Char) := do
  let ch ← peek
  if ch == '\u2028' || ch == '\u2029' then
    skip 1
    return [ch]
  else if isBreak ch then
    let next ← ahead 1
    skip (if ch == '\r' && next == '\n' then 2 else 1)
    return ['\n']
  else return []

def spaces : Scan Unit := discard (takeRun (· == ' '))

def comment : Scan Unit := do
  if (← peek) == '#' then discard (takeRun (!isBreakOrEnd ·))

/-- Finish a line that may hold only spaces and a comment from here on. -/
def restOfLine : Scan Unit := do
  spaces
  comment
  expect isBreakOrEnd
  discard lineBreak

end Scan

end BindingIndex.Yaml
