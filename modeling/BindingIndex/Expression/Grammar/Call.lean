import BindingIndex.Expression.Grammar.Atom

/-!
# Calls

* `Grammar.Arguments`: what is known of the arguments of a call.
* `Grammar.arguments`: the arguments of a call.
* `Grammar.primaryOf`, `Grammar.targetOf`: an atom with what is taken of it; what a loop assigns to.
-/

namespace BindingIndex.Expression.Grammar

open Rule

/-! ## Calls -/

structure Arguments where
  /-- How many stand without a name. -/
  positional : Nat
  /-- How many stand with a name or are unpacked from a mapping. -/
  keyword : Nat
  /-- Is one of them unpacked from a mapping? -/
  unpacks : Bool
  deriving DecidableEq, Repr

namespace Arguments

def none : Arguments := ⟨0, 0, false⟩

def and (a b : Arguments) : Arguments :=
  ⟨a.positional + b.positional, a.keyword + b.keyword, a.unpacks || b.unpacks⟩

def one : Arguments := ⟨1, 0, false⟩

def oneNamed : Arguments := ⟨0, 1, false⟩

def oneUnpacked : Arguments := ⟨0, 1, true⟩

def all (as : List Arguments) : Arguments := as.foldl and none

end Arguments

def keywordFault : Rule Arguments := explain (
  (do
    let s ← token fun
      | .word s => if ["True", "False", "None"].contains s then some s else none
      | _ => none
    sign "="
    return some (.assignmentTo s)) <|>
  (do
    discard name
    sign "="
    discard expression
    forClauses
    return some .assignment) <|>
  (do
    notAhead do discard name; sign "="
    discard expression
    sign "="
    return some .assignedArgument))

def keywordArgument : Rule Arguments := do
  discard name
  sign "="
  discard expression
  return .oneNamed

/-- An argument with a name, or a sequence that is unpacked. -/
def keywordOrStarred : Rule Arguments :=
  keywordFault <|> keywordArgument <|> (do discard starredExpression; return .one)

/-- An argument with a name, or a mapping that is unpacked. -/
def keywordOrDoubleStarred : Rule Arguments :=
  keywordFault <|> keywordArgument <|>
  (do
    sign "**"
    discard expression
    return .oneUnpacked)

def keywordArguments : Rule Arguments :=
  (do
    let first ← separated keywordOrStarred
    sign ","
    return (Arguments.all first).and (.all (← separated keywordOrDoubleStarred))) <|>
  (do return .all (← separated keywordOrStarred)) <|>
  (do return .all (← separated keywordOrDoubleStarred))

def positionalArgument : Rule Arguments :=
  (do discard starredExpression; return .one) <|>
  (do
    discard (assignmentExpression <|> unassignedExpression)
    notAhead (sign "=")
    return .one)

/-- The arguments of a call; those without a name come first. -/
def argumentList : Rule Arguments :=
  (do
    let first ← separated positionalArgument
    let more ← Rule.optional do sign ","; keywordArguments
    return (Arguments.all first).and (more.getD .none)) <|> keywordArguments

def argumentFault : Rule Arguments := explain (
  (do
    discard ((do discard (separated positionalArgument); sign ","; keywordArguments) <|>
      keywordArguments)
    sign ","
    discard (separated do discard starredExpression; notAhead (sign "="))
    return some .starAfterUnpacking) <|>
  (do
    discard expression
    forClauses
    sign ","
    discard (Rule.optional ((do discard argumentList) <|> (do discard expression; forClauses)))
    return some .unparenthesizedGenerator) <|>
  (do
    discard name
    sign "="
    discard expression
    forClauses
    return some .assignment) <|>
  (do
    let a ← argumentList
    forClauses
    -- behind a single argument a loop is right: they make a generator
    return if a.positional ≤ 1 then none else some .unparenthesizedGenerator) <|>
  (do
    discard argumentList
    sign ","
    discard expression
    forClauses
    return some .unparenthesizedGenerator) <|>
  (do
    let a ← argumentList
    sign ","
    discard argumentList
    return some (if a.unpacks then .positionalAfterUnpacking else .positionalAfterKeyword)))

def arguments : Rule Arguments :=
  (do
    let a ← argumentList
    discard (Rule.optional (sign ","))
    ahead (sign ")")
    return a) <|> argumentFault

def callTail : Rule Arguments := do
  sign "("
  let a ← Rule.optional arguments
  sign ")"
  return a.getD .none

/-- Something that is taken of an expression or done with it: a member, or a call. -/
def trailer (t : Tree) : Rule Tree :=
  (do
    sign "."
    discard name
    return .member) <|>
  (do discard generator; return .call t false) <|>
  (do return .call t ((← callTail) = .none))

def primaryOf (format : Literal → Except Fault Unit) : Rule Tree := do
  loop trailer (← atom format)

/-! ## Targets of loops -/

def trailerAhead : Rule Unit := ahead (sign "(" <|> sign "[" <|> sign ".")

/-- Something of which a member is taken as the target. -/
def targetOwner (format : Literal → Except Fault Unit) : Rule Tree := do
  let t ← atom format
  trailerAhead
  loop (fun t => do
    let t ← trailer t
    trailerAhead
    return t) t

def targetOf (format : Literal → Except Fault Unit) : Rule Unit :=
  (do
    discard (targetOwner format)
    sign "."
    discard name
    notAhead trailerAhead) <|>
  (do discard name) <|>
  (do
    sign "("
    target
    sign ")") <|>
  (do
    sign "("
    discard (Rule.optional do
      starTarget
      (do
        discard (oneOrMore do sign ","; starTarget)
        discard (Rule.optional (sign ","))) <|> sign ",")
    sign ")")

end BindingIndex.Expression.Grammar
