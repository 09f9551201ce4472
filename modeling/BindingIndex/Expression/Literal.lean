import BindingIndex.Expression.Token
import BindingIndex.Text.Names

/-!
# Text literals

A text literal may be marked as bytes, as raw, or as a formatted text. Unless it is raw, a backslash
starts an escape in it.

* `Expression.Literal`: a text literal with its marks.
* `Literal.checkEscapes`: whether every escape in a text can be read.
* `Literal.checkByteEscapes`: the same for bytes.
-/

namespace BindingIndex.Expression

/-- A text literal: its marks, and what stands between its quotes. -/
structure Literal where
  isBytes : Bool
  isRaw : Bool
  isFormatted : Bool
  body : List Char
  deriving DecidableEq, Repr

namespace Literal

/-- What stands between the quotes. -/
def unquoted : List Char → List Char
  | q :: r :: s :: rest =>
    if q = r ∧ r = s ∧ 3 ≤ rest.length then rest.take (rest.length - 3)
    else (r :: s :: rest).dropLast
  | s => (s.drop 1).dropLast

def ofToken (s : List Char) : Literal :=
  let marks := (s.takeWhile Char.isAlpha).map Text.lowerAscii
  ⟨marks.contains 'b', marks.contains 'r', marks.contains 'f', unquoted (s.drop marks.length)⟩

/-! ## Escapes -/

/-- The characters as the escapes are read in them: one beyond ASCII counts as the ten characters of
its own escape, and a backslash before it as the six of one. -/
def expanded : List Char → List Char
  | [] => []
  | '\\' :: c :: rest =>
    if 0x80 ≤ c.toNat then '\\' :: "u005c".toList ++ ('\\' :: "U00000000".toList) ++ expanded rest
    else '\\' :: c :: expanded rest
  | ['\\'] => '\\' :: "u005c".toList
  | c :: rest =>
    if 0x80 ≤ c.toNat then '\\' :: "U00000000".toList ++ expanded rest else c :: expanded rest

/-- The number of characters that an escape for a code point has after its letter. -/
def codeDigits? : Char → Option Nat
  | 'x' => some 2
  | 'u' => some 4
  | 'U' => some 8
  | _ => none

/-- How many of an escape's digits are missing, in words. -/
def truncated (letter : Char) (digits : Nat) : String :=
  "truncated \\" ++ String.ofList (letter :: List.replicate digits 'X') ++ " escape"

def hexValue (s : List Char) : Nat :=
  s.foldl (fun n c =>
    n * 16 + if c.isDigit then c.toNat - 48 else (Text.lowerAscii c).toNat - 87) 0

/-- The fault of an escape, given what follows its backslash at an offset. -/
def escapeFault? (offset : Nat) : List Char → Option EscapeFault
  | [] => none
  | 'N' :: rest =>
    match rest with
    | '\x7b' :: named =>
      let name := named.takeWhile (· ≠ '\x7d')
      let last := offset + 2 + name.length
      if name.length = named.length ∨ name = [] then
        some (.characters offset last "malformed \\N character escape")
      else if Text.isCharName name then none
      else some (.characters offset (last + 1) "unknown Unicode character name")
    | _ => some (.characters offset (offset + 1) "malformed \\N character escape")
  | letter :: rest =>
    match codeDigits? letter with
    | none => none
    | some n =>
      let digits := (rest.take n).takeWhile isHexDigit
      if digits.length < n then
        some (.characters offset (offset + 1 + digits.length) (truncated letter n))
      else if 0x110000 ≤ hexValue digits then
        some (.characters offset (offset + 1 + n) "illegal Unicode character")
      else none

/-- Check the escapes of an expanded text that starts at an offset. -/
def checkEscapesFrom (offset : Nat) : List Char → Except Fault Unit
  | [] => .ok ()
  | '\\' :: c :: rest =>
    match escapeFault? offset (c :: rest) with
    | some f => .error (.escape f)
    | none => checkEscapesFrom (offset + 2) rest
  | _ :: rest => checkEscapesFrom (offset + 1) rest

def checkEscapes (s : List Char) : Except Fault Unit := checkEscapesFrom 0 (expanded s)

def checkByteEscapesFrom (offset : Nat) : List Char → Except Fault Unit
  | [] => .ok ()
  | '\\' :: 'x' :: rest =>
    if ((rest.take 2).takeWhile isHexDigit).length < 2 then .error (.escape (.byte offset))
    else checkByteEscapesFrom (offset + 2) rest
  | '\\' :: _ :: rest => checkByteEscapesFrom (offset + 2) rest
  | _ :: rest => checkByteEscapesFrom (offset + 1) rest

def checkByteEscapes (s : List Char) : Except Fault Unit := checkByteEscapesFrom 0 s

end Literal

end BindingIndex.Expression
