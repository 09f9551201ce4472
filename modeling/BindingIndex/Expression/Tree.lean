/-!
# Expression trees

The structure of an expression as far as it matters to a reader: what its literals are and which
kind of expression each part is.

* `Expression.Tree`: the trees.
* `Tree.kind`: the kind of an expression, as messages name it.
* `Tree.badTarget?`: the part of a loop's target that nothing can be assigned to.
-/

namespace BindingIndex.Expression

/-- A number as far as arithmetic on it can fail. -/
inductive Number where
  | whole (n : Nat)
  | fraction
  | imaginary
  deriving DecidableEq, Repr

inductive UnaryOp where
  | plus
  | minus
  | invert
  | not
  deriving DecidableEq, Repr

inductive Tree where
  | name (s : String)
  | null
  | bool (b : Bool)
  | ellipsis
  | number (n : Number)
  | text
  | bytes
  | formatted
  | tuple (items : List Tree)
  | set (items : List Tree)
  /-- Entries with a key each, unless another mapping is unpacked. -/
  | dict (entries : List (Option Tree × Tree))
  | call (callee : Tree) (isBare : Bool)
  | member
  | unary (op : UnaryOp) (operand : Tree)
  /-- A sum or a difference, or another operation on two operands. -/
  | binary (isSum : Bool) (left right : Tree)
  | logical
  /-- A chain of comparisons; `isMembership` tells about the first one. -/
  | comparison (left : Tree) (isMembership : Bool)
  | conditional
  | lambda
  | generator
  | setComprehension
  | dictComprehension
  | starred (value : Tree)
  | named
  | await
  | yield
  deriving Inhabited

namespace Tree

def kind : Tree → String
  | name _ => "name"
  | null => "None"
  | bool b => if b then "True" else "False"
  | ellipsis => "ellipsis"
  | number _ => "literal"
  | text => "literal"
  | bytes => "literal"
  | formatted => "f-string expression"
  | tuple _ => "tuple"
  | set _ => "set display"
  | dict _ => "dict literal"
  | call _ _ => "function call"
  | member => "attribute"
  | unary _ _ => "expression"
  | binary _ _ _ => "expression"
  | logical => "expression"
  | comparison _ _ => "comparison"
  | conditional => "conditional expression"
  | lambda => "lambda"
  | generator => "generator expression"
  | setComprehension => "set comprehension"
  | dictComprehension => "dict comprehension"
  | starred _ => "starred"
  | named => "named expression"
  | await => "await expression"
  | yield => "yield expression"

mutual

/-- The part of a loop's target that nothing can be assigned to. A target is read with the word
behind it, as the left side of a membership test. -/
def badTarget? : Tree → Option Tree
  | name _ => none
  | member => none
  | tuple items => firstBadTarget? items
  | starred value => value.badTarget?
  | comparison left isMembership => if isMembership then left.badTarget? else none
  | t => some t

def firstBadTarget? : List Tree → Option Tree
  | [] => none
  | t :: rest => t.badTarget?.or (firstBadTarget? rest)

end

end Tree

end BindingIndex.Expression
