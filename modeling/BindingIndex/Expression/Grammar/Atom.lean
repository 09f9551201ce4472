import BindingIndex.Expression.Formatted
import BindingIndex.Expression.Grammar.Display

/-!
# Atoms

* `Grammar.numberOf`: the number that a token writes.
* `Grammar.checkLiterals`: whether text literals can stand one behind another.
* `Grammar.atom`: an expression that is no operation.
-/

namespace BindingIndex.Expression.Grammar

open Rule

def constant : Rule Tree :=
  token fun
    | .word "True" => some (.bool true)
    | .word "False" => some (.bool false)
    | .word "None" => some .null
    | .sign "..." => some .ellipsis
    | _ => none

/-- The digits of a number in base ten, if it is a whole one. -/
def wholeDigits? (s : List Char) : Option (List Char) :=
  let digits := s.filter (· ≠ '_')
  if digits.all Char.isDigit then some digits else none

def numberOf (s : List Char) : Except Fault Number :=
  match s, wholeDigits? s with
  | _, some digits =>
    if digits.any (· ≠ '0') && Text.maxDigits < digits.length then
      .error (.tooManyDigits digits.length)
    else .ok (.whole (digits.foldl (fun n c => n * 10 + (c.toNat - 48)) 0))
  | '0' :: letter :: digits, none =>
    if ['x', 'X', 'o', 'O', 'b', 'B'].contains letter then
      let base := if letter.toLower = 'x' then 16 else if letter.toLower = 'o' then 8 else 2
      let value := fun (c : Char) => if c.isDigit then c.toNat - 48 else c.toLower.toNat - 87
      .ok (.whole ((digits.filter (· ≠ '_')).foldl (fun n c => n * base + value c) 0))
    else .ok (pointed s)
  | s, none => .ok (pointed s)
where
  /-- A number with a point, an exponent or the mark of an imaginary one. -/
  pointed (s : List Char) : Number :=
    if s.getLast?.any fun c => c = 'j' || c = 'J' then .imaginary else .fraction

def number : Rule Tree := do
  let s ← token fun
    | .number s => some s
    | _ => none
  return .number (← ofExcept (numberOf s))

/-- Check what a text literal holds, where the one before it holds bytes or text. `format` checks a
formatted text. -/
def checkLiteral (format : Literal → Except Fault Unit) (before : Option Literal) (l : Literal) :
    Except Fault Unit := do
  if l.isBytes then
    if l.body.any (0x80 ≤ ·.toNat) then throw .wideBytes
    unless l.isRaw do Literal.checkByteEscapes l.body
  else unless l.isRaw || l.isFormatted do Literal.checkEscapes l.body
  if before.any (·.isBytes ≠ l.isBytes) then throw .mixedLiterals
  if l.isFormatted then format l

def checkLiterals (format : Literal → Except Fault Unit) (before : Option Literal) :
    List Literal → Except Fault Unit
  | [] => .ok ()
  | l :: rest => do
    checkLiteral format before l
    checkLiterals format (some l) rest

def literal : Rule Literal :=
  token fun
    | .literal s => some (.ofToken s)
    | _ => none

/-- Text literals one behind another, which make up one text. -/
def literals (format : Literal → Except Fault Unit) : Rule Tree := do
  let parts ← oneOrMore literal
  ofExcept (checkLiterals format none parts)
  return if parts.any Literal.isFormatted then .formatted
    else if parts.any Literal.isBytes then .bytes
    else .text

def atom (format : Literal → Except Fault Unit) : Rule Tree :=
  (do return .name (← name)) <|> constant <|> literals format <|> number <|>
  (do ahead (sign "("); tupleDisplay <|> group <|> generator) <|>
  (do ahead (sign "\x7b"); dictDisplay <|> setDisplay <|> dictComprehension <|> setComprehension)

end BindingIndex.Expression.Grammar
