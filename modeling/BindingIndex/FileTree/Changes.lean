import BindingIndex.FileTree.Basic

/-!
# Changes

A file tree may hold only what is known about a system. What a path visits is what has to be known
to follow it; what a run changed is what has to be carried out.

* `FileTree.visited`: the locations on the way of a path.
* `FileTree.unknown`: those about which a tree says nothing.
* `FileTree.changes`: the items that are new or different.
-/

namespace BindingIndex.FileTree

/-- The locations that names lead through. -/
def steps (loc : Location) : List Text → List Location
  | [] => []
  | name :: rest =>
    let next := if name = ".." then loc.dropLast else loc ++ [Text.Utf8.fileName name]
    next :: steps next rest

def visited (t : FileTree) (p : Path) : List Location := steps (t.origin p) p.names

def unknown (t : FileTree) (paths : List Path) : List Location :=
  (paths.flatMap t.visited).filter fun loc => (t.get? loc).isNone

/-- The items of a tree that another one lacks or has otherwise, in the order in which they were
put. -/
def changes (before after : FileTree) : List (Location × Item) :=
  after.items.filter fun (loc, item) => before.get? loc ≠ some item

end BindingIndex.FileTree
