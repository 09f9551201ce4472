import BindingIndex.CommandLine.Outcome
import BindingIndex.CommandLine.Prepare
import BindingIndex.Console.Table

/-!
# The show command

* `CommandLine.indexTable`: the table that is shown.
* `CommandLine.showIndices`: the outcome.
-/

namespace BindingIndex.CommandLine

def entryRow (drawn : Text → String) (e : Entry Text) : List String :=
  [toString e.index, drawn e.name]

def allRow : List String :=
  [toString ClassText.allIndex, ClassText.allProperties ++ " [dim](all properties)[/dim]"]

def indexTable (drawn : Text → String) (p : Prepared) : Console.Table where
  title := drawn p.config.generation.packageName ++ "." ++ ClassText.className
  columns := [⟨"Index", .right⟩, ⟨"Property", .left⟩]
  rows := allRow :: (IndexTable.ofNames p.names).map (entryRow drawn)

def reservedWarning : String :=
  "[yellow]⚠ '" ++ ClassText.allProperties ++
    "' is reserved; generate will reject this property set[/yellow]"

/-- What is printed for a prepared run. -/
def overview (p : Prepared) : Except Console.Fault (List Char) := do
  let table ← Console.print (p.config.generation.packageName :: p.names) fun drawn =>
    (indexTable drawn p).render
  if p.names.contains ClassText.allProperties then
    return table ++ (← Console.printParagraph reservedWarning)
  else return table

def showIndices (t : FileTree) (o : Options) : Outcome :=
  match prepare t o with
  | (events, .error f) => refuse t (shownEvents false events) f
  | (events, .ok p) => .printing t [] (shownEvents false events) .success (overview p)

end BindingIndex.CommandLine
