import BindingIndex.Expression.Grammar.Basic

/-!
# Loops

What is made by a loop holds an expression and then loops inside of each other.

* `Grammar.forClauses`: the loops.
* `Grammar.comprehensionFault`: what is wrong with the expression before them.
-/

namespace BindingIndex.Expression.Grammar

open Rule

def loopHead : Rule Unit := do
  word "for"
  discard (listed starTarget)
  word "in"

def loopTail : Rule Unit := do
  discard disjunction
  discard (many do word "if"; disjunction)

/-- The fault of a loop that assigns to something else. -/
def badTarget : Rule Unit := explain do
  discard (Rule.optional (word "async"))
  word "for"
  return (← starExpressions).badTarget?.map fun t => .assignmentTo t.kind

def forClause : Rule Unit :=
  commit (do word "async"; loopHead) (fun _ => loopTail)
    (commit loopHead (fun _ => loopTail) badTarget)

def forClauses : Rule Unit := do discard (oneOrMore forClause)

/-- The faults of what is made by a loop in brackets. Braces may hold more than one item before it.
-/
def comprehensionFault : Rule Tree := explain (
  (do
    sign "(" <|> sign "\x7b"
    discard starredExpression
    forClauses
    return some .starredComprehension) <|>
  (do
    sign "\x7b"
    discard starNamedExpression
    sign ","
    discard (listed starNamedExpression)
    forClauses
    return some .unparenthesizedTarget) <|>
  (do
    sign "\x7b"
    discard starNamedExpression
    sign ","
    forClauses
    return some .unparenthesizedTarget))

end BindingIndex.Expression.Grammar
