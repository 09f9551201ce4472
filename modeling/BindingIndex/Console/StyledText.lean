import BindingIndex.Text.Cells

/-!
# Styled text

A text with spans, stretches that have a style. Without colors a span shows nothing; still it is
kept through every operation, because its style is looked up and the text is set in parts where a
span starts or ends: each part is measured by itself.

* `Console.Span`, `Console.StyledText`: the types.
* `StyledText.slice`, `StyledText.cut`: a text between two places, and cut into pieces.
* `StyledText.withText`, `StyledText.indent`, `StyledText.append`: new characters, with the spans
  kept.
* `StyledText.expandTabs`: tabs become spaces.
* `StyledText.parts`: the parts that are set one by one; no character is lost.
-/

namespace BindingIndex.Console

open Text

/-- A stretch of a text, from the character at `start` to the one before `stop`. -/
structure Span where
  start : Nat
  stop : Nat
  /-- The name of the style; an action has none. -/
  style : Option String
  deriving DecidableEq, Repr

namespace Span

def move (n : Nat) (s : Span) : Span := { s with start := s.start + n, stop := s.stop + n }

/-- What is left of a span in the first `size` characters. An empty span inside them is kept. -/
def before? (size : Nat) (s : Span) : Option Span :=
  if s.start < size then some { s with stop := min s.stop size } else none

/-- What a span covers from `start` up to `stop`, counted from there, if that is anything. -/
def within? (start stop : Nat) (s : Span) : Option Span :=
  let first := max s.start start
  let last := min s.stop stop
  if first < last then some ⟨first - start, last - start, s.style⟩ else none

end Span

structure StyledText where
  text : List Char
  spans : List Span
  deriving DecidableEq, Repr

namespace StyledText

def plain (s : List Char) : StyledText := ⟨s, []⟩

/-! ## Cutting -/

def slice (start stop : Nat) (t : StyledText) : StyledText where
  text := (t.text.drop start).take (stop - start)
  spans := t.spans.filterMap (Span.within? start stop)

/-- Pieces of given lengths from `start` on, `gap` characters apart. -/
def slices (gap start : Nat) (t : StyledText) : List Nat → List StyledText
  | [] => []
  | n :: rest => t.slice start (start + n) :: slices gap (start + n + gap) t rest

/-- The text in pieces of given lengths, `gap` characters apart. A single piece is the text itself,
with its empty spans. -/
def cut (gap : Nat) (lengths : List Nat) (t : StyledText) : List StyledText :=
  match lengths with
  | _ :: _ :: _ => t.slices gap 0 lengths
  | _ => [t]

def lines (t : StyledText) : List StyledText :=
  t.cut 1 ((t.text.splitOn '\n').map List.length)

/-! ## Changing the characters -/

/-- Other characters under the same spans, which end with the text. -/
def withText (s : List Char) (t : StyledText) : StyledText where
  text := s
  spans := if s.length < t.text.length then t.spans.filterMap (Span.before? s.length) else t.spans

def indent (n : Nat) (t : StyledText) : StyledText :=
  ⟨List.replicate n ' ' ++ t.text, t.spans.map (Span.move n)⟩

def append (t u : StyledText) : StyledText :=
  ⟨t.text ++ u.text, t.spans ++ u.spans.map (Span.move t.text.length)⟩

/-- The text with `n` spaces behind it. They belong to the spans that end with the text. -/
def extend (n : Nat) (t : StyledText) : StyledText where
  text := t.text ++ List.replicate n ' '
  spans := t.spans.map fun s =>
    if t.text.length ≤ s.stop then { s with stop := s.stop + n } else s

/-! ## Tabs -/

def tabSize : Nat := 8

/-- The lengths of the pieces of a line that has been cut behind every tab. -/
def tabbedLengths (s : List Char) : List Nat :=
  match (s.splitOn '\t').map List.length with
  | [] => []
  | lengths => (lengths.dropLast.map (· + 1)) ++ lengths.getLast?.toList

/-- Join pieces whose last tab becomes one space or more, up to the next tab stop; `column` is where
the first of them starts. -/
def joinTabbed (column : Nat) : List StyledText → StyledText
  | [] => plain []
  | t :: rest =>
    match t.text.reverse with
    | '\t' :: before =>
      let text := (' ' :: before).reverse
      let column := column + Cells.width text
      -- the tab is a space by now; these are missing to the next stop
      let more := (tabSize - column % tabSize) % tabSize
      ((t.withText text).extend more).append (joinTabbed (column + more) rest)
    | _ => t.append (joinTabbed column rest)

def expandTabs (t : StyledText) : StyledText :=
  if t.text.contains '\t' then joinTabbed 0 (t.cut 0 (tabbedLengths t.text)) else t

/-! ## Parts -/

/-- Does a span start or end before the character at an offset? -/
def isEdge (t : StyledText) (offset : Nat) : Bool :=
  t.spans.any fun s => s.start = offset || s.stop = offset

/-- The parts of a text whose first character is at an offset. -/
def partsFrom (t : StyledText) (offset : Nat) : List Char → List (List Char)
  | [] => []
  | c :: rest =>
    match partsFrom t (offset + 1) rest with
    | [] => [[c]]
    | part :: more =>
      if t.isEdge (offset + 1) then [c] :: part :: more else (c :: part) :: more

def parts (t : StyledText) : List (List Char) := t.partsFrom 0 t.text

theorem flatten_partsFrom (t : StyledText) (offset : Nat) (s : List Char) :
    (t.partsFrom offset s).flatten = s := by
  induction s generalizing offset with
  | nil => rfl
  | cons c rest ih =>
    have h := ih (offset + 1)
    rw [partsFrom]
    split
    · rename_i hp
      rw [hp] at h
      simp [← h]
    · rename_i part more hp
      rw [hp] at h
      split <;> simp [← h]

@[simp] theorem flatten_parts (t : StyledText) : t.parts.flatten = t.text :=
  t.flatten_partsFrom 0 t.text

end StyledText

end BindingIndex.Console
