import BindingIndex.Console.Print

/-!
# Tables

A table has a title and columns with a head. A column is as wide as its widest line; if the whole
would be wider than the console, the last column gives way.

* `Console.Column`, `Console.Table`: what a table holds, as markup.
* `Console.Table.widths`: the cells inside each column.
* `Console.Table.render`: the table as it is shown.
-/

namespace BindingIndex.Console

structure Column where
  head : String
  align : Wrap.Align
  deriving DecidableEq, Repr

/-- A table of markup; a row has a cell for every column. -/
structure Table where
  title : String
  columns : List Column
  rows : List (List String)
  deriving DecidableEq, Repr

/-- The lines that join and part the rows: the left end, the crossings, the right end and the rule
between. -/
structure Rule where
  left : Char
  crossing : Char
  right : Char
  fill : Char

namespace Table

def topRule : Rule := ⟨'┏', '┳', '┓', '━'⟩

def headRule : Rule := ⟨'┡', '╇', '┩', '━'⟩

def bottomRule : Rule := ⟨'└', '┴', '┘', '─'⟩

def headSide : Char := '┃'

def side : Char := '│'

def widest (s : List Char) : Nat := ((Text.pieces s).map Text.Cells.width).foldl max 0

/-- The cells that a column would take for all of its texts. -/
def natural (rows : List (List StyledText)) (columns : List Column) : List Nat :=
  columns.zipIdx.map fun (c, i) =>
    (rows.map fun row => (row[i]?).elim 0 fun t => widest t.text).foldl max (widest c.head.toList)

/-- The cells of a table beside the texts: a space on both sides of every one, and the lines. -/
def extra (columns : Nat) : Nat := 3 * columns + 1

def total (ws : List Nat) : Nat := ws.foldl (· + ·) 0

/-- Let the last column give way until the table fits the console. -/
def fitted (ws : List Nat) : List Nat :=
  match ws.getLast? with
  | none => []
  | some w => ws.dropLast ++ [min w (width - extra ws.length - total ws.dropLast)]

def ruleLine (r : Rule) (ws : List Nat) : Line :=
  let parts := ws.map fun w => List.replicate (w + 2) r.fill
  [r.left :: [r.crossing].intercalate parts ++ [r.right]]

def cellLines (align : Wrap.Align) (w : Nat) (t : StyledText) :
    Except Markup.Fault (List Line) := do
  return (← setText w .ellipsis align t).map (fillLine w)

/-- One line of a row; where a cell has no line left, spaces stand. -/
def rowLine (side : Char) (ws : List Nat) (cells : List (List Line)) (i : Nat) : Line :=
  [side] :: (ws.zip cells).flatMap fun (w, lines) =>
    [[' ']] ++ (lines[i]?).getD [List.replicate w ' '] ++ [[' '], [side]]

def rowLines (side : Char) (columns : List Column) (ws : List Nat) (texts : List StyledText) :
    Except Markup.Fault (List Line) := do
  let cells ← (columns.zip (ws.zip texts)).mapM fun (c, w, t) => cellLines c.align w t
  return (List.range ((cells.map List.length).foldl max 0)).map (rowLine side ws cells)

def render (t : Table) : Except Markup.Fault (List Char) := do
  -- all cells are read before the title: a fault in one of them comes first
  let rows ← t.rows.mapM fun row => row.mapM fun s => Markup.read s.toList
  let ws := fitted (natural rows t.columns)
  let title ← setText (total ws + extra ws.length) .fold .center (← Markup.read t.title.toList)
  let head ← rowLines headSide t.columns ws (t.columns.map fun c => .plain c.head.toList)
  let body ← rows.mapM (rowLines side t.columns ws)
  return screen (
    title ++ [ruleLine topRule ws] ++ head ++ [ruleLine headRule ws] ++ body.flatten ++
      [ruleLine bottomRule ws])

end Table

end BindingIndex.Console
