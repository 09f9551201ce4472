import BindingIndex.Text.Digits
import BindingIndex.Text.Letters

/-!
# Patterns

A pattern is matched from a place of a text on, and the first way in which it fits counts. Its
alternatives are tried in order, and a repetition first takes as much as it can, or as little.

* `Text.Pattern`: patterns; `p ++ q` is one behind the other, `p <|> q` one or else the other.
* `Pattern.run`: match a pattern and go on with what follows.
* `Pattern.marks`: what the marked parts of a pattern cover in a text, match after match.
-/

namespace BindingIndex.Text

inductive Pattern where
  | nothing
  | char (isIn : Char → Bool)
  /-- No character of a class comes right before. -/
  | notBehind (isIn : Char → Bool)
  /-- A word starts or ends here, or else none does. -/
  | wordEdge (isOne : Bool)
  | both (p q : Pattern)
  | either (p q : Pattern)
  /-- A pattern several times, at least `least` and at most `most`; `short` tries fewer times first.
  -/
  | several (short : Bool) (least : Nat) (most : Option Nat) (p : Pattern)
  /-- A pattern whose place is reported. -/
  | mark (p : Pattern)

/-- How far a text has been matched. -/
structure Match where
  before : Option Char
  rest : List Char
  offset : Nat
  /-- Where the marked parts start and end, the last one first. -/
  marks : List (Nat × Nat)
  deriving DecidableEq, Repr

namespace Match

/-- The match behind the next character, if that is in a class. -/
def next? (isIn : Char → Bool) (m : Match) : Option Match :=
  match m.rest with
  | [] => none
  | c :: rest =>
    if isIn c then some { m with before := some c, rest, offset := m.offset + 1 } else none

/-- Does a word start or end here? -/
def isWordEdge (m : Match) : Bool := m.before.any isWordChar != m.rest.head?.any isWordChar

/-- The match with a marked part that ends here; an empty one is no part. -/
def mark (start : Nat) (m : Match) : Match :=
  if start < m.offset then { m with marks := (start, m.offset) :: m.marks } else m

end Match

namespace Pattern

instance : Append Pattern := ⟨both⟩

instance : OrElse Pattern := ⟨fun p q => either p (q ())⟩

/-! ## Building patterns -/

/-- A decimal digit of any script. -/
def digit : Pattern := char fun c => (decimal? c).isSome

def asciiDigit : Pattern := char Char.isDigit

def oneOf (s : String) : Pattern := char s.toList.contains

def text (s : String) : Pattern := s.toList.foldr (fun c p => char (· = c) ++ p) nothing

def many (p : Pattern) : Pattern := several false 0 none p

def oneOrMore (p : Pattern) : Pattern := several false 1 none p

def optional (p : Pattern) : Pattern := several false 0 (some 1) p

/-- A pattern as often as possible, within bounds. -/
def between (least most : Nat) (p : Pattern) : Pattern := several false least (some most) p

def times (n : Nat) (p : Pattern) : Pattern := between n n p

/-- One of some patterns; the earlier ones are tried first. -/
def firstOf (p : Pattern) (others : List Pattern) : Pattern := others.foldl either p

/-! ## Matching -/

/-- Take steps and then go on, at least `least` and at most as many as the last number tells. -/
def repeated (step : (Match → Option Match) → Match → Option Match) (short : Bool)
    (next : Match → Option Match) : Nat → Nat → Match → Option Match
  | least, 0, m => if least = 0 then next m else none
  | least, most + 1, m =>
    let again := fun (_ : Unit) => step (repeated step short next (least - 1) most) m
    if least ≠ 0 then again ()
    else if short then (next m).orElse again
    else (again ()).orElse fun _ => next m

/-- Match a pattern and go on. Where what follows does not fit, the next way to match the pattern is
tried. A repetition without a bound takes at most one step for each character that is left. -/
def run : Pattern → (Match → Option Match) → Match → Option Match
  | nothing, next, m => next m
  | char isIn, next, m => (m.next? isIn).bind next
  | notBehind isIn, next, m => if m.before.any isIn then none else next m
  | wordEdge isOne, next, m => if m.isWordEdge = isOne then next m else none
  | both p q, next, m => run p (run q next) m
  | either p q, next, m => (run p next m).orElse fun _ => run q next m
  | several short least most p, next, m =>
    repeated (run p) short next least (most.getD m.rest.length) m
  | mark p, next, m => run p (fun n => next (n.mark m.offset)) m

/-- The marks of all matches in a text that starts at an offset; the first `skip` characters belong
to the match before. -/
def marksFrom (p : Pattern) (skip : Nat) (before : Option Char) (offset : Nat) :
    List Char → List (Nat × Nat)
  | [] => []
  | c :: rest =>
    match skip with
    | n + 1 => marksFrom p n (some c) (offset + 1) rest
    | 0 =>
      match run p some ⟨before, c :: rest, offset, []⟩ with
      | none => marksFrom p 0 (some c) (offset + 1) rest
      | some m => m.marks.reverse ++ marksFrom p (m.offset - offset - 1) (some c) (offset + 1) rest

/-- What the marked parts cover, in all matches from the left to the right that do not overlap. A
pattern is meant to match at least one character. -/
def marks (p : Pattern) (s : List Char) : List (Nat × Nat) := marksFrom p 0 none 0 s

end Pattern

end BindingIndex.Text
