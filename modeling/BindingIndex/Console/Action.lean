import BindingIndex.Expression.Evaluate
import BindingIndex.Text.Blank
import BindingIndex.Value.Literal

/-!
# Actions

An action tag names what is to be done and what it is done with, as in `[@click=open(1, 2)]`.
Without a name it gives only the values, one or a tuple. Nothing is ever done here, but a call that
cannot be read is a fault.

* `Action.arguments`: the part of a call that is an expression.
* `Action.check`: whether a call can be read.
-/

namespace BindingIndex.Console.Action

inductive Fault where
  /-- What it is done with is no expression. -/
  | unreadable (expression call : List Char) (f : Expression.Fault)
  /-- That has no value. -/
  | valueless (call : List Char) (f : Expression.ValueFault)
  deriving DecidableEq, Repr

def Fault.message : Fault → String
  | unreadable expression call f =>
    "error parsing " ++ Value.quoted (String.ofList expression) ++ " in " ++
      Value.quoted (String.ofList call) ++ "; " ++ f.message
  | valueless call f =>
    "error parsing " ++ Value.quoted (String.ofList call) ++ "; " ++ f.message

def isNameChar (c : Char) : Bool := Text.isWordChar c || c = '.'

/-- Does a text stand in parentheses, within one line? -/
def isParenthesized (s : List Char) : Bool :=
  s.head? = some '(' && s.getLast? = some ')' && !s.contains '\n'

/-- The part of a call that is an expression: what is in parentheses behind a name, the empty tuple
behind a name that stands alone, and otherwise the whole call. -/
def arguments (call : List Char) : List Char :=
  match call.dropWhile isNameChar with
  | [] => ['(', ')']
  | rest => if isParenthesized rest then rest else call

/-- Check that a call can be read. Blanks around it do not count, and an action without a call has
nothing to be read. -/
def check (call : List Char) : Except Fault Unit :=
  if call.isEmpty then .ok ()
  else
    let expression := arguments (Text.trim call)
    -- blanks at its start would count as an indentation
    match Expression.parse (expression.dropWhile fun c => c = ' ' || c = '\t') with
    | .error f => .error (.unreadable expression call f)
    | .ok t =>
      match Expression.evaluate t with
      | .error f => .error (.valueless call f)
      | .ok _ => .ok ()

end BindingIndex.Console.Action
