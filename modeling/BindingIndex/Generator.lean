import BindingIndex.ClassText

/-!
# Generators

A generator is bound to one property set and keeps the class body of its first success: later
assignments of the table or of finality do not show. A failure is not kept.

* `Generator.body`: the class body, rendered at most once.
* `Generator.write`: the file for a package, around the same body.
* `Generator.step`, `Generator.run`: operations in any order.
-/

namespace BindingIndex

/-- A property table, its finality and the class body once it has been rendered. -/
structure Generator where
  useFinal : Bool
  table : List (Entry Text Index)
  kept : Option Text
  deriving Repr

namespace Generator

def new (names : List Text) (useFinal : Bool) : Generator :=
  ⟨useFinal, IndexTable.ofNames names, none⟩

/-- The class body; the first success is kept. -/
def body (g : Generator) : Generator × Except ClassText.Fault Text :=
  match g.kept with
  | some text => (g, .ok text)
  | none =>
    match ClassText.classText g.table g.useFinal with
    | .ok text => ({ g with kept := some text }, .ok text)
    | .error e => (g, .error e)

def write (g : Generator) (packageName : Text) :
    Generator × Except ClassText.Fault Text :=
  let (g, r) := g.body
  (g, r.map (ClassText.packageHeader packageName ++ ·))

inductive Step where
  | write (packageName : Text)
  | body
  | setFinal (useFinal : Bool)
  | setTable (table : List (Entry Text Index))
  deriving Repr

/-- Run one operation; the text, if it is one that gives a text. -/
def step (g : Generator) : Step → Generator × Option (Except ClassText.Fault Text)
  | .write p => let (g, r) := g.write p; (g, some r)
  | .body => let (g, r) := g.body; (g, some r)
  | .setFinal f => ({ g with useFinal := f }, none)
  | .setTable t => ({ g with table := t }, none)

def run (g : Generator) :
    List Step → Generator × List (Option (Except ClassText.Fault Text))
  | [] => (g, [])
  | s :: rest =>
    let (g, r) := g.step s
    let (g, rs) := g.run rest
    (g, r :: rs)

end Generator

end BindingIndex
