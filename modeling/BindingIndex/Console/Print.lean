import BindingIndex.Console.Highlight
import BindingIndex.Console.Markup
import BindingIndex.Console.Wrap

/-!
# Printing

Everything the console shows ends with a line feed and is at most `Console.width` cells wide. A line
is printed part by part, and the cells of each part count for themselves.

* `Console.Line`: a line as the parts it is printed in.
* `Console.fillLine`, `Console.cropLine`: a line filled up or cut to a number of cells.
* `Console.setText`: the lines of a styled text.
* `Console.screen`: lines one below another.
* `Console.paragraph`: markup as a paragraph.
-/

namespace BindingIndex.Console

/-- The cells in a line of the console. -/
def width : Nat := 80

abbrev Line := List (List Char)

def cells (line : Line) : Nat := (line.map Text.Cells.width).foldl (· + ·) 0

/-- The first `n` cells of a line that has more. -/
def takeCells (n : Nat) : Line → Line
  | [] => []
  | part :: rest =>
    if Text.Cells.width part < n then part :: takeCells (n - Text.Cells.width part) rest
    else [Text.Cells.resize n part]

def cropLine (n : Nat) (line : Line) : Line := if n < cells line then takeCells n line else line

def fillLine (n : Nat) (line : Line) : Line :=
  if cells line < n then line ++ [List.replicate (n - cells line) ' '] else cropLine n line

/-- The lines of a styled text, whose styles are all looked up. -/
def setText (width : Nat) (overflow : Wrap.Overflow) (align : Wrap.Align) (t : StyledText) :
    Except Markup.Fault (List Line) := do
  let lines := Wrap.lines width overflow align t
  lines.forM Markup.checkStyles
  return lines.map StyledText.parts

def screen (lines : List Line) : List Char :=
  lines.flatMap fun line => (cropLine width line).flatten ++ ['\n']

/-- Markup as a paragraph, in which values are highlighted. -/
def paragraph (markup : String) : Except Markup.Fault (List Char) := do
  let text ← Markup.read markup.toList
  return screen (← setText width .fold .free text.highlighted)

end BindingIndex.Console
