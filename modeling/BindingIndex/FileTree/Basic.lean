import BindingIndex.Path
import BindingIndex.Value.Literal

/-!
# File trees

A file tree says what is at each location: nothing, a directory or a file with its bytes. Locations
are lists of names from the root down; the current directory and those above it are always there. A
name is bytes, which are UTF-8 unless a surrogate of the path stands for a stray byte.

* `FileTree.get?`, `FileTree.put`, `FileTree.remove`: look at and change one location.
* `FileTree.locate`: follow a path through directories that exist.
* `FileError`: why an operation on a path failed, with its text.
* `FileError.barred?`: the paths that no operation is tried on.
-/

namespace BindingIndex

/-- Why the system refuses an operation on a path. -/
inductive FileErrorCause where
  | notFound
  | exists
  | notDirectory
  | isDirectory
  | nameTooLong
  deriving DecidableEq, Repr

inductive FileError where
  | system (cause : FileErrorCause) (path : Path)
  /-- The path holds a NUL, so it cannot be passed on at all. -/
  | nulInPath
  /-- The path, or the text for a file, has no bytes. -/
  | unencodable (f : Text.Fault)
  deriving DecidableEq, Repr

namespace FileErrorCause

def number : FileErrorCause → Nat
  | notFound => 2
  | .exists => 17
  | notDirectory => 20
  | isDirectory => 21
  | nameTooLong => 36

def words : FileErrorCause → String
  | notFound => "No such file or directory"
  | .exists => "File exists"
  | notDirectory => "Not a directory"
  | isDirectory => "Is a directory"
  | nameTooLong => "File name too long"

end FileErrorCause

namespace FileError

def message : FileError → String
  | system cause path =>
    "[Errno " ++ toString cause.number ++ "] " ++ cause.words ++ ": " ++
      Value.quotedText path.toText
  | nulInPath => "embedded null byte"
  | unencodable f => f.message

/-- Why a path cannot be passed on to the system. -/
def barred? (p : Path) : Option FileError :=
  match Text.Utf8.nameFault? p.toText with
  | some f => some (unencodable f)
  | none => if p.hasNul then some nulInPath else none

end FileError

abbrev Name := List UInt8

instance : Coe String Name := ⟨Text.Utf8.encode⟩

/-- A place in a file tree: the names from the root down. -/
abbrev Location := List Name

inductive Item where
  | dir
  | file (bytes : List UInt8)
  deriving DecidableEq, Repr

structure FileTree where
  current : Location
  items : List (Location × Item)
  deriving DecidableEq, Repr

namespace FileTree

/-- The longest name of one path component, in bytes. -/
def maxName : Nat := 255

/-- The length that a whole path must stay below, in bytes. -/
def maxPath : Nat := 4096

/-- The item that a list holds for a location. -/
def find (loc : Location) : List (Location × Item) → Option Item
  | [] => none
  | (l, item) :: rest => if l = loc then some item else find loc rest

def get? (t : FileTree) (loc : Location) : Option Item :=
  if loc.isPrefixOf t.current then some .dir else find loc t.items

/-- The list with an item at a location, in place of the one that was there. -/
def replace (loc : Location) (item : Item) : List (Location × Item) → List (Location × Item)
  | [] => [(loc, item)]
  | (l, i) :: rest => if l = loc then (l, item) :: rest else (l, i) :: replace loc item rest

def put (t : FileTree) (loc : Location) (item : Item) : FileTree :=
  { t with items := replace loc item t.items }

/-- The tree without a location and all that is below it. -/
def remove (t : FileTree) (loc : Location) : FileTree :=
  { t with items := t.items.filter fun (l, _) => !loc.isPrefixOf l }

def origin (t : FileTree) (p : Path) : Location := if p.isAbsolute then [] else t.current

/-- Follow names from a location; every name but the last has to be a directory that exists, and so
has the location itself. -/
def walk (t : FileTree) (loc : Location) : List Text → Except FileErrorCause Location
  | [] => .ok loc
  | name :: rest =>
    match t.get? loc with
    | none => .error .notFound
    | some (.file _) => .error .notDirectory
    | some .dir =>
      if name = ".." then walk t loc.dropLast rest
      else if maxName < Text.Utf8.size name then .error .nameTooLong
      else walk t (loc ++ [Text.Utf8.fileName name]) rest

def locate (t : FileTree) (p : Path) : Except FileErrorCause Location :=
  if maxPath ≤ Text.Utf8.size p.toText then .error .nameTooLong
  else t.walk (t.origin p) p.names

def lookup (t : FileTree) (p : Path) : Except FileErrorCause Item :=
  match t.locate p with
  | .error e => .error e
  | .ok loc =>
    match t.get? loc with
    | some item => .ok item
    | none => .error .notFound

theorem find_replace (loc l : Location) (item : Item) (xs : List (Location × Item)) :
    find l (replace loc item xs) = if loc = l then some item else find l xs := by
  induction xs with
  | nil => simp [replace, find]
  | cons x xs ih =>
    obtain ⟨m, i⟩ := x
    simp only [replace]
    split
    · subst m; simp only [find]; split <;> simp_all
    · simp only [find, ih]
      split
      · subst m
        simp_all [eq_comm]
      · rfl

/-- Only the location that was put changes. -/
theorem get?_put (t : FileTree) (loc l : Location) (item : Item) :
    (t.put loc item).get? l =
      if l.isPrefixOf t.current then some .dir
      else if loc = l then some item else t.get? l := by
  simp only [get?, put, find_replace]
  split <;> simp_all

end FileTree

end BindingIndex
