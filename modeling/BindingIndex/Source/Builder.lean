import BindingIndex.Text.Basic

/-!
# Line builder

Source text is collected line by line under an indentation depth. Depth is an integer: a block left
once too often leaves it negative, and a negative depth indents by nothing.

* `Builder.line`, `Builder.enter`, `Builder.leave`: append one line each.
* `Builder.generate`: every line ended by one line feed.
-/

namespace BindingIndex.Source

/-- The lines so far, the indentation unit and the depth in force. -/
structure Builder where
  indent : Text
  depth : Int
  lines : List Text
  deriving DecidableEq, Repr

namespace Builder

/-- The indentation unit of a new builder: four spaces. -/
def defaultIndent : Text := "    "

def new (indent : Text) : Builder := ⟨indent, 0, []⟩

/-- The indentation in force: the unit once per level of depth. -/
def margin (b : Builder) : Text := (List.replicate b.depth.toNat b.indent).flatten

/-- A line as it is stored: blank text has no indentation. -/
def indented (b : Builder) (text : Text) : Text :=
  if text = [] then [] else b.margin ++ text

def line (b : Builder) (text : Text) : Builder :=
  { b with lines := b.lines ++ [b.indented text] }

def opening (header : Text) : Text := header ++ " \x7b"

def closing : Text := "\x7d"

/-- Append the opening line of a block and go one level deeper. -/
def enter (b : Builder) (header : Text) : Builder :=
  let b := b.line (opening header)
  { b with depth := b.depth + 1 }

/-- Go one level up and append the closing line of a block. -/
def leave (b : Builder) : Builder :=
  { b with depth := b.depth - 1 }.line closing

def generate (b : Builder) : Text := b.lines.flatMap (· ++ "\n")

@[simp] theorem depth_line (b : Builder) (t : Text) : (b.line t).depth = b.depth := rfl
@[simp] theorem indent_line (b : Builder) (t : Text) : (b.line t).indent = b.indent := rfl
@[simp] theorem lines_line (b : Builder) (t : Text) :
    (b.line t).lines = b.lines ++ [b.indented t] := rfl
@[simp] theorem depth_enter (b : Builder) (h : Text) : (b.enter h).depth = b.depth + 1 := rfl
@[simp] theorem indent_enter (b : Builder) (h : Text) : (b.enter h).indent = b.indent := rfl
@[simp] theorem lines_enter (b : Builder) (h : Text) :
    (b.enter h).lines = b.lines ++ [b.indented (opening h)] := rfl
@[simp] theorem depth_leave (b : Builder) : b.leave.depth = b.depth - 1 := rfl
@[simp] theorem indent_leave (b : Builder) : b.leave.indent = b.indent := rfl

end Builder

end BindingIndex.Source
