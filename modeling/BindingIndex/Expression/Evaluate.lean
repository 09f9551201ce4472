import BindingIndex.Expression.Parse

/-!
# Evaluating literals

The expressions that are evaluated are literals: numbers with a sign, sums of a real number and an
imaginary one, texts, and tuples, sets and mappings of them. Nothing depends on their values, but
the evaluation can fail.

* `Expression.ValueFault`: why an expression has no value.
* `Expression.evaluate`: whether an expression has a value.
-/

namespace BindingIndex.Expression

inductive ValueFault where
  /-- A part of it is no literal; a mapping that is unpacked is none, and has no place. -/
  | noLiteral (line : Option Nat)
  /-- A value of a kind cannot be an item of a set or a key. -/
  | unhashable (kind : String)
  /-- A whole number is too large to be added to an imaginary one. -/
  | tooLarge
  deriving DecidableEq, Repr

def ValueFault.message : ValueFault → String
  | noLiteral none => "malformed node or string: None"
  | noLiteral (some line) => "malformed node or string on line " ++ toString line
  | unhashable kind => "unhashable type: '" ++ kind ++ "'"
  | tooLarge => "int too large to convert to float"

/-- What is known of a value: the kind that keeps it from being a key, if any. -/
abbrev Hashing := Option String

/-- The number that an expression with a sign at most writes. -/
def signedNumber? : Tree → Option Number
  | .number n => some n
  | .unary .plus (.number n) => some n
  | .unary .minus (.number n) => some n
  | _ => none

/-- The least whole number that is rounded to none with a fraction: halfway between the greatest one
and the next power of two. -/
def tooLargeFrom : Nat := Nat.pow 2 1024 - Nat.pow 2 970

def evaluateSum (left : Tree) (right : Tree) : Except ValueFault Hashing :=
  match signedNumber? left, right with
  | some (.whole n), .number .imaginary => if tooLargeFrom ≤ n then .error .tooLarge else .ok none
  | some .fraction, .number .imaginary => .ok none
  | _, _ => .error (.noLiteral (some 1))

/-- Use a value as an item of a set or as a key. -/
def useAsKey : Hashing → Except ValueFault Unit
  | none => .ok ()
  | some kind => .error (.unhashable kind)

mutual

def evaluate : Tree → Except ValueFault Hashing
  | .null => .ok none
  | .bool _ => .ok none
  | .ellipsis => .ok none
  | .number _ => .ok none
  | .text => .ok none
  | .bytes => .ok none
  | .tuple items => evaluateItems items
  | .set items => do
    evaluateKeys items
    return some "set"
  | .call (.name "set") true => .ok (some "set")
  | .dict entries => do
    evaluateEntries entries
    return some "dict"
  | .binary true left right => evaluateSum left right
  | t => if (signedNumber? t).isSome then .ok none else .error (.noLiteral (some 1))

/-- Evaluate the items of a tuple, which is a key if all of them are. -/
def evaluateItems : List Tree → Except ValueFault Hashing
  | [] => .ok none
  | t :: rest => do
    let first ← evaluate t
    let more ← evaluateItems rest
    return first.or more

def evaluateKeys : List Tree → Except ValueFault Unit
  | [] => .ok ()
  | t :: rest => do
    useAsKey (← evaluate t)
    evaluateKeys rest

def evaluateEntries : List (Option Tree × Tree) → Except ValueFault Unit
  | [] => .ok ()
  | (none, _) :: _ => .error (.noLiteral none)
  | (some key, value) :: rest => do
    -- a key is used only when its value has been evaluated as well
    let key ← evaluate key
    discard (evaluate value)
    useAsKey key
    evaluateEntries rest

end

end BindingIndex.Expression
