import BindingIndex.FileTree.Operations
import BindingIndex.Text.Blank

/-!
# Property lists

A text with one property name per line. White space around a name is stripped; blank lines and lines
whose first character after stripping is `#` hold no name.

* `PropertyList.names`: the names in a text.
* `PropertyList.read`: the names in a file.
-/

namespace BindingIndex

/-- Why a text file could not be read. -/
inductive ReadFault where
  | file (e : FileError)
  | text (f : Text.Utf8.Fault)
  deriving DecidableEq, Repr

def ReadFault.message : ReadFault → String
  | .file e => e.message
  | .text f => f.message

namespace PropertyList

/-- The name on a line, if it holds one. -/
def name? (line : List Char) : Option String :=
  match Text.trim line with
  | [] => none
  | '#' :: _ => none
  | s => some (String.ofList s)

def names (text : List Char) : List String :=
  (Text.pieces (Text.unifyNewlines text)).filterMap name?

inductive Fault where
  | missing (path : Path)
  | unreadable (path : Path) (why : ReadFault)
  /-- The question whether the file exists failed. -/
  | unanswered (e : FileError)
  deriving DecidableEq, Repr

def read (t : FileTree) (path : Path) : Except Fault (List String) :=
  match t.exists? path with
  | .error e => .error (.unanswered e)
  | .ok false => .error (.missing path)
  | .ok true =>
    match t.read path with
    | .error e => .error (.unreadable path (.file e))
    | .ok bytes =>
      match Text.Utf8.decode bytes with
      | .error f => .error (.unreadable path (.text f))
      | .ok text => .ok (names text)

end PropertyList

end BindingIndex
