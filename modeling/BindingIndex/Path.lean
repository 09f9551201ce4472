import BindingIndex.Text.Basic

/-!
# Paths

A path in normal form: its root and the names below it. Repeated slashes and `.` components vanish,
`..` stays, and two leading slashes are a root of their own.

* `Path.ofText`, `Path.toText`: read and write a path.
* `Path.join`: a path below another one, unless it has a root of its own.
* `Path.parent`: the path without its last name.
-/

namespace BindingIndex

inductive PathRoot where
  /-- The current directory. -/
  | relative
  /-- One leading slash, or three and more. -/
  | single
  /-- Exactly two leading slashes. -/
  | double
  deriving DecidableEq, Repr

structure Path where
  root : PathRoot
  names : List Text
  deriving DecidableEq, Repr

namespace Path

/-- The names between slashes, without empty ones and `.`. -/
def components (t : Text) : List Text :=
  (t.splitOn (.char '/')).filter fun name => name ≠ [] ∧ name ≠ "."

def rootOf : Text → PathRoot
  | .char '/' :: .char '/' :: .char '/' :: _ => .single
  | .char '/' :: .char '/' :: _ => .double
  | .char '/' :: _ => .single
  | _ => .relative

def ofText (t : Text) : Path := ⟨rootOf t, components t⟩

def rootText : PathRoot → String
  | .relative => ""
  | .single => "/"
  | .double => "//"

/-- The text of a path; the current directory is a dot. -/
def toText (p : Path) : Text :=
  let body := rootText p.root ++ (Text.ofString "/").intercalate p.names
  if body = [] then "." else body

def isAbsolute (p : Path) : Bool := p.root ≠ .relative

/-- The path `q` taken from `p`. -/
def join (p q : Path) : Path :=
  if q.isAbsolute then q else ⟨p.root, p.names ++ q.names⟩

/-- The path without its last name; a bare root and the current directory are their own parents. -/
def parent (p : Path) : Path := ⟨p.root, p.names.dropLast⟩

def child (p : Path) (name : Text) : Path := ⟨p.root, p.names ++ [name]⟩

def hasNul (p : Path) : Bool := p.names.any fun name => name.contains (.char '\x00')

end Path

end BindingIndex
