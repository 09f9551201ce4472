import BindingIndex.Expression.Grammar.Loop

/-!
# Parentheses and braces

* `Grammar.tupleDisplay`, `Grammar.group`, `Grammar.generator`: what stands in parentheses.
* `Grammar.dictDisplay`, `Grammar.setDisplay`: mappings and sets.
* `Grammar.dictComprehension`, `Grammar.setComprehension`: those that are made by a loop.
-/

namespace BindingIndex.Expression.Grammar

open Rule

/-! ## Parentheses -/

def tupleDisplay : Rule Tree := do
  sign "("
  let items ← Rule.optional do
    let first ← starNamedExpression
    sign ","
    return first :: ((← Rule.optional (listed starNamedExpression)).getD [])
  sign ")"
  return .tuple (items.getD [])

/-- What a function gives to its caller. -/
def yieldExpression : Rule Tree :=
  (do
    word "yield"
    word "from"
    discard expression
    return .yield) <|>
  (do
    word "yield"
    discard (Rule.optional starExpressions)
    return .yield)

def groupFault : Rule Tree := explain (
  (do
    sign "("
    discard starredExpression
    sign ")"
    return some .starredGroup) <|>
  (do
    sign "("
    sign "**"
    discard expression
    sign ")"
    return some .doubleStarredGroup))

def group : Rule Tree :=
  (do
    sign "("
    let e ← yieldExpression <|> namedExpression
    sign ")"
    return e) <|> groupFault

def generator : Rule Tree :=
  (do
    sign "("
    discard (assignmentExpression <|> unassignedExpression)
    forClauses
    sign ")"
    return .generator) <|> comprehensionFault

/-! ## Braces -/

def entry : Rule (Tree × Tree) := do
  let key ← expression
  sign ":"
  return (key, ← expression)

/-- An entry, or another mapping that is unpacked. -/
def starEntry : Rule (Option Tree × Tree) :=
  (do sign "**"; return (none, ← union)) <|> (do let (k, v) ← entry; return (some k, v))

def entryValueFault : Rule (Option Fault) :=
  (do
    discard expression
    sign ":"
    sign "*"
    discard union
    return some .starredEntryValue) <|>
  (do
    discard expression
    sign ":"
    ahead (sign "\x7d" <|> sign ",")
    return some .missingEntryValue)

def entryFault : Rule (Option Fault) :=
  (do
    discard expression
    notAhead (sign ":")
    return some .missingColon) <|> entryValueFault

/-- A mapping in braces. Its faults are never left unexplained. -/
def dictDisplay : Rule Tree :=
  (do
    sign "\x7b"
    let entries ← Rule.optional (listed starEntry)
    sign "\x7d"
    return .dict (entries.getD [])) <|>
  complain (do
    sign "\x7b"
    (do
      discard (separated starEntry)
      sign ","
      entryFault) <|> entryValueFault)

def setDisplay : Rule Tree := do
  sign "\x7b"
  let items ← listed starNamedExpression
  sign "\x7d"
  return .set items

/-- A mapping that is made by a loop. -/
def dictComprehension : Rule Tree :=
  (do
    sign "\x7b"
    discard entry
    forClauses
    sign "\x7d"
    return .dictComprehension) <|>
  explain (do
    sign "\x7b"
    sign "**"
    discard union
    forClauses
    sign "\x7d"
    return some .doubleStarredComprehension)

def setComprehension : Rule Tree :=
  (do
    sign "\x7b"
    discard namedExpression
    forClauses
    sign "\x7d"
    return .setComprehension) <|> comprehensionFault

end BindingIndex.Expression.Grammar
