import BindingIndex.Source.Builder

/-!
# Builder sessions

A session drives one builder step by step and may leave its open blocks in any order. Leaving a
block does the same whichever it is and however it is left, so only the number of open blocks shows.

* `Session.step`: one operation; `Session.run`: a sequence of them.
-/

namespace BindingIndex.Source

inductive Step where
  | line (text : Text)
  | enter (header : Text)
  /-- Leave the open block at a position counted from the outermost, or the innermost one. -/
  | leave (position : Option Nat)
  /-- Leave a block, found in the same way, by a failure inside it. -/
  | fail (message : Text) (position : Option Nat := none)
  | generate
  | setDepth (depth : Int)
  | setIndent (indent : Text)
  /-- Append to the list of lines that was handed out. -/
  | editLines (text : Text)
  deriving Repr

/-- A builder and the headers of its open blocks, the outermost first. -/
structure Session where
  builder : Builder
  blocks : List Text
  deriving Repr

namespace Session

def new (indent : Text) : Session := ⟨.new indent, []⟩

/-- The open blocks when one of them, or the innermost one, was left. -/
def without (blocks : List Text) : Option Nat → List Text
  | none => blocks.dropLast
  | some i => blocks.eraseIdx i

def step (s : Session) : Step → Session
  | .line text => { s with builder := s.builder.line text }
  | .enter header => ⟨s.builder.enter header, s.blocks ++ [header]⟩
  | .leave position => ⟨s.builder.leave, without s.blocks position⟩
  | .fail _ position => ⟨s.builder.leave, without s.blocks position⟩
  | .generate => s
  | .setDepth d => { s with builder := { s.builder with depth := d } }
  | .setIndent i => { s with builder := { s.builder with indent := i } }
  -- a copy was handed out: the lines of the builder stay
  | .editLines _ => s

def run (s : Session) (steps : List Step) : Session := steps.foldl step s

end Session

end BindingIndex.Source
