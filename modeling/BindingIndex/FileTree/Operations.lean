import BindingIndex.FileTree.Basic

/-!
# Operations on file trees

Each operation follows its path through the tree as it stands and either answers or says why not.
An operation that changes the tree also gives the tree back when it fails, since directories made on
the way stay.

* `FileTree.exists?`, `FileTree.isDir`, `FileTree.read`: questions.
* `FileTree.makeDir`, `FileTree.makeDirs`: one directory, or one with all that lead to it.
* `FileTree.write`, `FileTree.writeText`: create or replace a file.
-/

namespace BindingIndex.FileTree

/-- Does the path lead to anything? A path that is merely wrong leads to nothing; one that is too
long is an error. -/
def exists? (t : FileTree) (p : Path) : Except FileError Bool :=
  match FileError.barred? p with
  | some _ => .ok false
  | none =>
    match t.lookup p with
    | .ok _ => .ok true
    | .error .nameTooLong => .error (.system .nameTooLong p)
    | .error _ => .ok false

def isDir (t : FileTree) (p : Path) : Bool :=
  match t.lookup p with
  | .ok .dir => true
  | _ => false

/-- The bytes of the file that a path leads to. -/
def read (t : FileTree) (p : Path) : Except FileError (List UInt8) :=
  match FileError.barred? p with
  | some e => .error e
  | none =>
    match t.lookup p with
    | .ok (.file bytes) => .ok bytes
    | .ok .dir => .error (.system .isDirectory p)
    | .error e => .error (.system e p)

/-- Where a new item of a path would go: the directory before its last name has to exist. A path
that ends in no name of its own leads to a directory that is there. -/
def slot (t : FileTree) (p : Path) : Except FileErrorCause (Option Location) :=
  if maxPath ≤ Text.Utf8.size p.toText then .error .nameTooLong
  else
    match p.names.getLast? with
    | none => .ok none
    | some name =>
      match t.walk (t.origin p) p.names.dropLast with
      | .error e => .error e
      | .ok loc =>
        match t.get? loc with
        | none => .error .notFound
        | some (.file _) => .error .notDirectory
        | some .dir =>
          if name = ".." then .ok none
          else if maxName < Text.Utf8.size name then .error .nameTooLong
          else .ok (some (loc ++ [Text.Utf8.fileName name]))

def makeDir (t : FileTree) (p : Path) : Except FileError FileTree :=
  match FileError.barred? p with
  | some e => .error e
  | none =>
    match t.slot p with
    | .error e => .error (.system e p)
    | .ok none => .error (.system .exists p)
    | .ok (some loc) =>
      match t.get? loc with
      | some _ => .error (.system .exists p)
      | none => .ok (t.put loc .dir)

def ensureDir (t : FileTree) (p : Path) : Except FileError FileTree :=
  match t.makeDir p with
  | .ok t => .ok t
  | .error (.system .notFound p) => .error (.system .notFound p)
  -- why it was refused does not matter if the directory is there
  | .error (.system e p) => if t.isDir p then .ok t else .error (.system e p)
  | .error e => .error e

/-- Make a directory below a root and every directory that leads to it, by the names from the last
one up. A missing parent is made first; what was made stays when a later step fails. -/
def makeDirsUp (t : FileTree) (root : PathRoot) : List Text → FileTree × Except FileError Unit
  | [] =>
    match t.ensureDir ⟨root, []⟩ with
    | .ok t => (t, .ok ())
    | .error e => (t, .error e)
  | name :: up =>
    let p : Path := ⟨root, (name :: up).reverse⟩
    match t.ensureDir p with
    | .ok t => (t, .ok ())
    | .error (.system .notFound _) =>
      match makeDirsUp t root up with
      | (t, .error e) => (t, .error e)
      | (t, .ok ()) =>
        match t.ensureDir p with
        | .ok t => (t, .ok ())
        | .error e => (t, .error e)
    | .error e => (t, .error e)

def makeDirs (t : FileTree) (p : Path) : FileTree × Except FileError Unit :=
  makeDirsUp t p.root p.names.reverse

def write (t : FileTree) (p : Path) (bytes : List UInt8) : Except FileError FileTree :=
  match FileError.barred? p with
  | some e => .error e
  | none =>
    match t.slot p with
    | .error e => .error (.system e p)
    | .ok none => .error (.system .isDirectory p)
    | .ok (some loc) =>
      match t.get? loc with
      | some .dir => .error (.system .isDirectory p)
      | _ => .ok (t.put loc (.file bytes))

def writeText (t : FileTree) (p : Path) (text : Text) : FileTree × Except FileError Unit :=
  match Text.Utf8.encodeText text with
  | .ok bytes =>
    match t.write p bytes with
    | .ok t => (t, .ok ())
    | .error e => (t, .error e)
  | .error f =>
    -- the file is open, and so empty, before its text turns out to have no bytes
    match t.write p [] with
    | .ok t => (t, .error (.unencodable f))
    | .error e => (t, .error e)

end BindingIndex.FileTree
