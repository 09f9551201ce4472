import BindingIndex.Console.Print

/-!
# Panels

A panel is a box across the whole console with a title in its upper line.

* `Console.panel`: a text in a panel.
-/

namespace BindingIndex.Console

/-- The upper line of a panel: the title in the middle of the line, with a space on both sides. -/
def panelTop (title : List Char) : Line :=
  let title := ' ' :: title ++ [' ']
  let free := width - 2 - Text.Cells.width title
  [['╭'], List.replicate (free / 2) '─', title, List.replicate (free - free / 2) '─', ['╮']]

def panelBottom : Line := [['╰'], List.replicate (width - 2) '─', ['╯']]

def panelLine (line : Line) : Line := [['│'], [' ']] ++ line ++ [[' '], ['│']]

def panel (title markup : String) : Except Markup.Fault (List Char) := do
  let text ← Markup.read markup.toList
  let inner := width - 4
  let lines ← setText inner .fold .free text
  return screen (
    panelTop title.toList :: lines.map (fun l => panelLine (fillLine inner l)) ++ [panelBottom])

end BindingIndex.Console
