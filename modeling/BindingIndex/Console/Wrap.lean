import BindingIndex.Console.StyledText
import BindingIndex.Text.Blank

/-!
# Wrapping

Text is set in lines of a width measured in cells. A word carries the white space after it; one that
does not fit without that white space goes to the next line. Only a line feed ends a line by itself.

* `Wrap.words`: a line cut into words, nothing lost.
* `Wrap.Overflow`, `Wrap.Align`: what happens to a word wider than a line, and to the space left.
* `Wrap.lines`: a text in lines.
-/

namespace BindingIndex.Console.Wrap

open Text

inductive Overflow where
  /-- It goes on in the next line. -/
  | fold
  /-- It is cut and ends with an ellipsis. -/
  | ellipsis
  deriving DecidableEq, Repr

inductive Align where
  /-- At the start, with nothing after it. -/
  | free
  | left
  | center
  | right
  deriving DecidableEq, Repr

/-! ## Words -/

def startsBlank (s : List Char) : Bool := s.head?.any isBlank

/-- A line cut where white space ends; leading white space is a word of its own. -/
def chunks : List Char → List (List Char)
  | [] => []
  | c :: rest =>
    match chunks rest with
    | [] => [[c]]
    | word :: more =>
      if isBlank c && !startsBlank word then [c] :: word :: more else (c :: word) :: more

/-- A line cut into words. Leading white space belongs to the first one. -/
def words (s : List Char) : List (List Char) :=
  match chunks s with
  | first :: second :: more =>
    if startsBlank first then (first ++ second) :: more else first :: second :: more
  | ws => ws

@[simp] theorem flatten_chunks (s : List Char) : (chunks s).flatten = s := by
  induction s with
  | nil => rfl
  | cons c rest ih =>
    rw [chunks]
    split
    · rename_i h
      simp only [h, List.flatten_nil] at ih
      simp [← ih]
    · rename_i word more h
      simp only [h, List.flatten_cons] at ih
      split
      · simp [← ih]
      · simp [← ih]

@[simp] theorem flatten_words (s : List Char) : (words s).flatten = s := by
  rw [words]
  split
  · rename_i first second more h
    rw [← flatten_chunks s, h]
    split
    · simp
    · rfl
  · simp

/-! ## Breaking a line -/

/-- Lines that are being filled: the finished ones, the last first, and the one at hand with the
cells that count for it. -/
structure Filling where
  done : List (List Char)
  line : List Char
  used : Nat
  deriving DecidableEq, Repr

/-- Start a new line with a piece, unless nothing has been set yet. -/
def Filling.start (f : Filling) (piece : List Char) : Filling where
  done := if f.line = [] ∧ f.done = [] then [] else f.line :: f.done
  line := piece
  used := Cells.width piece

def Filling.place (width : Nat) (overflow : Overflow) (f : Filling) (word : List Char) : Filling :=
  let needed := Cells.width (trimRight word)
  if f.used + needed ≤ width then
    { f with line := f.line ++ word, used := f.used + Cells.width word }
  -- no line is wide enough: chopped now, or cut when the line is set
  else if width < needed ∧ overflow = .fold then (Cells.chop width word).foldl Filling.start f
  else f.start word

/-- Break a line where the next word does not fit. -/
def broken (width : Nat) (overflow : Overflow) (s : List Char) : List (List Char) :=
  let f := (words s).foldl (Filling.place width overflow) ⟨[], [], 0⟩
  (f.line :: f.done).reverse

/-! ## Setting lines -/

/-- Drop trailing white space as far as the line has more than `width` characters. -/
def dropExcess (width : Nat) (t : StyledText) : StyledText :=
  let size := t.text.length
  let blanks := size - (trimRight t.text).length
  t.withText (t.text.take (size - min blanks (size - width)))

def shorten (width : Nat) (overflow : Overflow) (t : StyledText) : StyledText :=
  if Cells.width t.text ≤ width then t
  else
    match overflow with
    | .fold => t.withText (Cells.resize width t.text)
    | .ellipsis => t.withText (Cells.resize (width - 1) t.text ++ ['…'])

def fill (width : Nat) (t : StyledText) : StyledText :=
  t.withText (t.text ++ List.replicate (width - Cells.width t.text) ' ')

def shortenTrimmed (width : Nat) (overflow : Overflow) (t : StyledText) : StyledText :=
  shorten width overflow (t.withText (trimRight t.text))

def aligned (width : Nat) (overflow : Overflow) (align : Align) (t : StyledText) : StyledText :=
  match align with
  | .free => shorten width overflow t
  | .left => fill width (shorten width overflow t)
  | .center =>
    let t := shortenTrimmed width overflow t
    fill width (t.indent ((width - Cells.width t.text) / 2))
  | .right =>
    let t := shortenTrimmed width overflow t
    t.indent (width - Cells.width t.text)

def lines (width : Nat) (overflow : Overflow) (align : Align) (t : StyledText) :
    List StyledText :=
  t.lines.flatMap fun line =>
    let line := line.expandTabs
    (line.cut 0 ((broken width overflow line.text).map List.length)).map fun l =>
      aligned width overflow align (dropExcess width l)

end BindingIndex.Console.Wrap
