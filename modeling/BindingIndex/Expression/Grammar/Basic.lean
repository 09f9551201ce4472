import BindingIndex.Expression.Rule

/-!
# The parts of expressions

Rules that take part in a recursion are kept in `Readings`; every other rule is written in terms of
those. Here are the kept ones, and the lists that are made of them.

* `Grammar.expression`, `Grammar.namedExpression`, `Grammar.operation`: rules that are kept.
* `Grammar.expressions`, `Grammar.starExpressions`: expressions with commas between.
-/

namespace BindingIndex.Expression.Grammar

open Rule

/-! ## Kept rules -/

/-- What members are taken of and what is called. -/
def primary : Rule Tree := kept Readings.primary

/-- A factor, or what is built of factors by operators of the first `level` kinds. -/
def operation (level : Nat) : Rule Tree := kept fun r => (r.operations[level]?).getD .none

def factor : Rule Tree := operation 0

/-- An expression without comparisons. -/
def union : Rule Tree := operation 6

def inversion : Rule Tree := kept Readings.inversion

def conjunction : Rule Tree := kept Readings.conjunction

def disjunction : Rule Tree := kept Readings.disjunction

def expression : Rule Tree := kept Readings.expression

def plainExpression : Rule Tree := kept Readings.plain

def namedExpression : Rule Tree := kept Readings.named

/-- What a loop may assign to, without a star. -/
def target : Rule Unit := kept Readings.target

/-! ## Lists of expressions -/

/-- One item, or a tuple of items without parentheses; the first item has a rule of its own. -/
def tupleFrom (first item : Rule Tree) : Rule Tree := do
  let first ← first
  let more ← many do sign ","; item
  let comma ← Rule.optional (sign ",")
  return if more.isEmpty && comma.isNone then first else .tuple (first :: more)

def expressions : Rule Tree := tupleFrom expression expression

/-- An expression, or a star and what it unpacks. -/
def starExpression : Rule Tree :=
  (do sign "*"; return .starred (← union)) <|> expression

/-- Such expressions, a tuple if there are commas. -/
def starExpressions : Rule Tree := tupleFrom starExpression starExpression

def starNamedExpression : Rule Tree :=
  (do sign "*"; return .starred (← union)) <|> namedExpression

/-- A star and what is unpacked by it in a call. -/
def starredExpression : Rule Tree :=
  (do sign "*"; return .starred (← expression)) <|> (do sign "*"; raise .bareStar)

/-- A name and what it is assigned inside of an expression. -/
def assignmentExpression : Rule Tree := do
  discard name
  sign ":="
  discard expression
  return .named

def unassignedExpression : Rule Tree := do
  let e ← expression
  notAhead (sign ":=")
  return e

def noAssignment : Rule Unit := notAhead (sign "=" <|> sign ":=")

/-- What a loop may assign to, with a star if need be. -/
def starTarget : Rule Unit :=
  (do sign "*"; notAhead (sign "*"); target) <|> target

end BindingIndex.Expression.Grammar
