import BindingIndex.Expression.Grammar.Basic

/-!
# Operators

* `Grammar.factorOf`, `Grammar.chain`: arithmetic.
* `Grammar.inversionOf`, `Grammar.logical`: comparisons, and what is made of them.
-/

namespace BindingIndex.Expression.Grammar

open Rule

def unaryOp? : TokenKind → Option UnaryOp
  | .sign "+" => some .plus
  | .sign "-" => some .minus
  | .sign "~" => some .invert
  | _ => none

/-- A power, maybe of something that is waited for. -/
def power : Rule Tree := do
  let base ← (do word "await"; discard primary; return .await) <|> primary
  match ← Rule.optional do sign "**"; factor with
  | some e => return .binary false base e
  | none => return base

def factorOf : Rule Tree :=
  (do return .unary (← token unaryOp?) (← factor)) <|> power

/-- Operators from the left to the right, between operands of a level. -/
def chain (level : Nat) (signs : List String) : Rule Tree := do
  loop (fun left => do
    let s ← anySign signs
    return .binary (s = "+" || s = "-") left (← operation level)) (← operation level)

/-- The operators between factors, those that bind more tightly first. -/
def operators : List (List String) :=
  [["*", "/", "//", "%", "@"], ["+", "-"], ["<<", ">>"], ["&"], ["^"], ["|"]]

/-- The operator of a comparison; `true` stands for a membership test. -/
def comparisonOp : Rule Bool :=
  (do discard (anySign ["==", "!=", "<=", "<", ">=", ">"]); return false) <|>
  (do
    word "not"
    word "in"
    return false) <|>
  (do word "in"; return true) <|>
  (do
    word "is"
    word "not"
    return false) <|>
  (do word "is"; return false)

def compared : Rule Bool := do
  let isMembership ← comparisonOp
  discard union
  return isMembership

/-- A comparison, or its opposite. -/
def inversionOf : Rule Tree :=
  (do word "not"; return .unary .not (← inversion)) <|>
  (do
    let left ← union
    match ← many compared with
    | [] => return left
    | isMembership :: _ => return .comparison left isMembership)

/-- Operands with a word between them. -/
def logical (s : String) (operand : Rule Tree) : Rule Tree := do
  let first ← operand
  return if (← many do word s; operand).isEmpty then first else .logical

end BindingIndex.Expression.Grammar
