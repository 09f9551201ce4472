import BindingIndex.Expression.Grammar.Call
import BindingIndex.Expression.Grammar.Function
import BindingIndex.Expression.Grammar.Operator

/-!
# The grammar of expressions

* `Grammar.expressionOf`, `Grammar.namedOf`: expressions, and the faults of whole ones.
* `Grammar.readings`: what the rules read from every place of a text.
* `Grammar.explained`: the same with all faults explained.
-/

namespace BindingIndex.Expression.Grammar

open Rule

/-! ## Expressions -/

/-- The names of statements that were once written without parentheses. -/
def statementNames : List String := ["print", "exec"]

def isStatement : Tree → Bool
  | .name s => statementNames.contains s
  | _ => false

/-- A name that may be the start of a word with another meaning. -/
def softWord : Rule Unit := token fun
  | .name s =>
    if ["_", "case", "match"].any fun w => s.toList.isPrefixOf w.toList then some () else none
  | _ => none

/-- What comes next is more likely a marked text or another word than two expressions. -/
def misspelt : Rule Unit := (do discard name; discard literal) <|> softWord

def expressionFault : Rule Tree := explain (
  (do
    notAhead misspelt
    let e ← disjunction
    -- an expression right behind another one, inside of brackets: a comma may be missing
    let (_, depth) ← withDepth plainExpression
    return if isStatement e || depth = 0 then none else some .missingComma) <|>
  (do
    discard disjunction
    word "if"
    discard disjunction
    notAhead (word "else" <|> sign ":")
    return some .missingElse))

/-- What stands behind a name. The first expression has been read there before, unless none was
expected. -/
def behindName (isMisspelt : Bool) : Rule Tree :=
  tupleFrom (kept fun r => if isMisspelt then r.fresh else r.behindName) (kept Readings.fresh)

/-- The fault of a statement without parentheses. -/
def statementFault : Rule Tree := explain do
  let isMisspelt ← Rule.optional (ahead misspelt)
  let s ← name
  notAhead (sign "(")
  discard (behindName isMisspelt.isSome)
  return if statementNames.contains s then some (.missingCallParentheses s) else none

def condition : Rule Unit := do
  word "if"
  discard disjunction
  word "else"
  discard expression

def expressionOf : Rule Tree :=
  expressionFault <|> statementFault <|>
  (do
    let e ← disjunction
    return if (← Rule.optional condition).isSome then .conditional else e) <|>
  lambda

def namedFault : Rule Tree := explain (
  (do
    let e ← expression
    sign ":="
    discard expression
    return some (.namedExpression e.kind)) <|>
  (do
    discard name
    sign "="
    discard union
    noAssignment
    return some .assignment) <|>
  (do
    notAhead (tupleDisplay <|> generator <|>
      token fun k => if k = .word "True" ∨ k = .word "None" ∨ k = .word "False" then
        some (.null : Tree) else none)
    let e ← union
    sign "="
    discard union
    noAssignment
    return some (.assignmentHere e.kind)))

def namedOf : Rule Tree :=
  assignmentExpression <|> namedFault <|> unassignedExpression

/-! ## Reading a text -/

/-- What the rules read from the place of given readings on, which hold nothing but what is known
before, and those from every later place. Each rule is read after those that it uses at its own
place. -/
def fillIn (format : Literal → Except Fault Unit) (r : Readings) (later : List Readings) :
    Readings :=
  let r := { r with primary := primaryOf format (r :: later) }
  let r := { r with operations := [factorOf (r :: later)] }
  let r := operators.zipIdx.foldl (fun r (signs, level) =>
    { r with operations := r.operations ++ [chain level signs (r :: later)] }) r
  let r := { r with inversion := inversionOf (r :: later) }
  let r := { r with conjunction := logical "and" inversion (r :: later) }
  let r := { r with disjunction := logical "or" conjunction (r :: later) }
  let r := { r with expression := expressionOf (r :: later) }
  let r := { r with named := namedOf (r :: later) }
  { r with target := targetOf format (r :: later) }

/-- The readings from every place of a text, without explaining faults. -/
def readings (format : Literal → Except Fault Unit) : List Token → List Readings
  | [] => []
  | t :: rest =>
    let later := readings format rest
    fillIn format (Readings.before t) later :: later

/-- The readings from every place of a text, given those without explaining faults: first the same
with only the own faults of an expression behind a name, then with all faults explained. -/
def explained (format : Literal → Except Fault Unit) :
    List Readings → List Readings × List Readings
  | [] => ([], [])
  | r :: rest =>
    let (recalled, later) := explained format rest
    let r := { r with explains := true, plain := r.expression }
    let behindName := ((do sign "*"; return .starred (← union)) <|> expressionOf) (r :: recalled)
    let r := { r with behindName }
    let known := { Readings.before r.token with
      explains := true, plain := r.plain, behindName := r.behindName }
    let full := fillIn format known later
    let full := { full with fresh := starExpression (full :: later) }
    ({ r with fresh := full.fresh } :: recalled, full :: later)

end BindingIndex.Expression.Grammar
