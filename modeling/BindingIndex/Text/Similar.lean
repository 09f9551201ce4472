import BindingIndex.Text.Basic

/-!
# Similar words

How much of two words matches: their longest common block, the one that comes first if there are
several, and then what matches before it and after it.

* `Text.longestBlock`: the block.
* `Text.matching`: the number of characters that match.
* `Text.closest`: the candidates that match a word well, the best ones first.
-/

namespace BindingIndex.Text

/-- The number of characters that two texts start with in common. -/
def commonStart : Text → Text → Nat
  | a :: as, b :: bs => if a = b then commonStart as bs + 1 else 0
  | _, _ => 0

/-- A common block of two texts: where it starts in each and how long it is. -/
structure Block where
  left : Nat
  right : Nat
  size : Nat
  deriving DecidableEq, Repr

/-- The longer of two blocks, the first one if they are equally long. -/
def Block.longer (a b : Block) : Block := if a.size < b.size then b else a

/-- The longest block that starts at the start of `as`; `j` is where `bs` starts. -/
def blockAtStart (i j : Nat) (as : Text) : Text → Block
  | [] => ⟨i, j, 0⟩
  | b :: bs => Block.longer ⟨i, j, commonStart as (b :: bs)⟩ (blockAtStart i (j + 1) as bs)

/-- The longest block of two texts; `i` is where the left one starts. -/
def longestFrom (i : Nat) (bs : Text) : Text → Block
  | [] => ⟨i, 0, 0⟩
  | a :: as => Block.longer (blockAtStart i 0 (a :: as) bs) (longestFrom (i + 1) bs as)

def longestBlock (as bs : Text) : Block := longestFrom 0 bs as

/-- The characters of two texts that match; every block takes one from `depth`. -/
def matchingWithin : Nat → Text → Text → Nat
  | 0, _, _ => 0
  | depth + 1, as, bs =>
    let k := longestBlock as bs
    if k.size = 0 then 0
    else
      matchingWithin depth (as.take k.left) (bs.take k.right) + k.size +
        matchingWithin depth (as.drop (k.left + k.size)) (bs.drop (k.right + k.size))

def matching (as bs : Text) : Nat := matchingWithin as.length as bs

/-- A candidate for a word: the characters that match, out of those of both. -/
structure Candidate where
  word : String
  matched : Nat
  total : Nat
  deriving DecidableEq, Repr

/-- Is the candidate a good match: do three fifths of all characters match? -/
def Candidate.isClose (c : Candidate) : Bool := 3 * c.total ≤ 10 * c.matched

/-- Is the first candidate at least as good as the second? Among equals the later word in code point
order is the better one. -/
def Candidate.isBetter (a b : Candidate) : Bool :=
  b.matched * a.total < a.matched * b.total ||
    (a.matched * b.total = b.matched * a.total && b.word ≤ a.word)

def candidate (word : Text) (candidate : String) : Candidate :=
  ⟨candidate, matching candidate word, candidate.length + word.length⟩

/-- The candidates that match a word well, the best ones first and at most three. -/
def closest (word : Text) (candidates : List String) : List String :=
  ((((candidates.map (candidate word)).filter Candidate.isClose).mergeSort
    Candidate.isBetter).take 3).map Candidate.word

end BindingIndex.Text
