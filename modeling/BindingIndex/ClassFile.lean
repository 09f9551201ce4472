import BindingIndex.ClassText
import BindingIndex.FileTree.Operations

/-!
# Class files

The file of a class stands below an output root, one directory per segment of its package. It is
written only if it does not hold the source already.

* `ClassFile.target`: the path of a package's file.
* `ClassFile.write`: bring the file up to date.
-/

namespace BindingIndex.ClassFile

/-- The segments of a package name, as paths of their own. -/
def segments (packageName : Text) : List Path := (packageName.splitOn (.char '.')).map Path.ofText

/-- The path of a package's file: its segments joined one after another below the output root. -/
def target (outputDir : Path) (packageName : Text) : Path :=
  ((segments packageName).foldl Path.join outputDir).child (ClassText.className ++ ".java")

/-- The file that was brought up to date, and whether it had to be written. -/
structure Written where
  path : Path
  changed : Bool
  deriving DecidableEq, Repr

def isCurrent (t : FileTree) (path : Path) (source : Text) : Except FileError Bool :=
  match t.exists? path with
  | .error e => .error e
  | .ok false => .ok false
  | .ok true =>
    match t.read path with
    | .error e => .error e
    | .ok old =>
      match Text.Utf8.encodeText source with
      | .error f => .error (.unencodable f)
      | .ok bytes => .ok (old = bytes)

def write (t : FileTree) (outputDir : Path) (packageName source : Text) :
    FileTree × Except FileError Written :=
  let path := target outputDir packageName
  match isCurrent t path source with
  | .error e => (t, .error e)
  | .ok true => (t, .ok ⟨path, false⟩)
  | .ok false =>
    -- directories that were made stay, even if the file cannot be written then
    match t.makeDirs path.parent with
    | (t, .error e) => (t, .error e)
    | (t, .ok ()) =>
      match t.writeText path source with
      | (t, .error e) => (t, .error e)
      | (t, .ok ()) => (t, .ok ⟨path, true⟩)

end BindingIndex.ClassFile
