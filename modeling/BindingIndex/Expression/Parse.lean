import BindingIndex.Expression.Grammar

/-!
# Parsing expressions

A text is read twice if need be: first only to read it, and when that fails once more to find out
why. A fault of a token that outranks those of rules counts wherever the token is.

* `Expression.faultOf`: the fault that a failed reading ends with.
* `Expression.parse`: the tree of an expression.
-/

namespace BindingIndex.Expression

/-- The fault that counts, where a rule has found one in a line. A token may outrank it; and where
the text ends inside of brackets, a fault in a later line than theirs is due to them. -/
def outranked (tokens : List Token) (line : Nat) (f : Fault) : Fault :=
  match tokens.getLast? with
  | some ⟨.fault g, _, brackets, _⟩ =>
    if g.outranks then g
    else
      match brackets with
      | (opening, opened) :: _ => if opened < line ∧ f ≠ g then .unclosed opening else f
      | [] => f
  | _ => f

def lastOf (tokens : List Token) (reach : Nat) : Token :=
  (tokens[reach - 1]?).getD ⟨.stop, 1, [], false⟩

/-- The fault that counts, where a rule has found one by looking at some tokens. Nothing outranks it
if the scanner has come to the end of the text by then. -/
def found (tokens : List Token) (reach : Nat) (f : Fault) : Fault :=
  let last := lastOf tokens reach
  if last.endsText then f else outranked tokens last.line f

/-- The fault of a text that the rules do not read, given how far they looked first and what they
found when they looked for it. -/
def faultOf (tokens : List Token) (reach : Nat) (second : Reading Tree) : Fault :=
  match second.result with
  | .fault f => found tokens (max reach second.reach) f
  | _ =>
    -- no rule reads an indentation, so looking at one was the end
    if (lastOf tokens reach).kind = .indent then .indent
    else outranked tokens (lastOf tokens (max reach second.reach)).line .unexpected

def readTokens (format : Literal → Except Fault Unit) (start : Rule Tree) (tokens : List Token) :
    Except Fault Tree :=
  let places := Grammar.readings format tokens
  let first := start places
  match first.result with
  | .value t _ => .ok t
  | .fault f => .error (found tokens first.reach f)
  | .nothing => .error (faultOf tokens first.reach (start (Grammar.explained format places).2))

def wholeText : Rule Tree := do
  let e ← Grammar.expressions
  discard (Rule.many (Rule.token fun k => if k = .newline then some () else none))
  Rule.token fun k => if k = .stop then some () else none
  return e

/-- Check an expression in a formatted text that is at most `depth` formatted texts deep in others.
-/
def checkPart : Nat → List Char → Except Fault Unit
  | 0, _ => .ok ()
  | depth + 1, s =>
    match readTokens (Formatted.check (checkPart depth)) Grammar.starExpressions (tokens s) with
    | .ok _ => .ok ()
    | .error f => .error f.inside

/-- The tree of an expression. A formatted text in it is longer than what it holds, so the length of
the text bounds how deep they are. -/
def parse (s : List Char) : Except Fault Tree :=
  readTokens (Formatted.check (checkPart s.length)) wholeText (tokens s)

end BindingIndex.Expression
