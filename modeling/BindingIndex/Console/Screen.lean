import BindingIndex.Console.Panel
import BindingIndex.Console.Table

/-!
# Printing

What is printed leaves as UTF-8, so nothing is printed if a surrogate is left in it. Until then a
surrogate is a character like any other: it is drawn as a stand-in, a private-use character that is
in none of the texts.

* `Console.print`: print what is drawn of texts.
* `Console.printParagraph`, `Console.printPanel`: print markup.
-/

namespace BindingIndex.Console

/-- Why nothing is printed. -/
inductive Fault where
  /-- The markup cannot be read; what is said about it. -/
  | markup (f : Markup.Fault) (message : Text)
  | unencodable (f : Text.Fault)
  deriving DecidableEq, Repr

def Fault.message : Fault → Text
  | markup _ message => message
  | unencodable f =>
    f.message ++ "\n*** You may need to add PYTHONIOENCODING=utf-8 to your environment ***"

/-! ## Stand-ins -/

namespace StandIn

/-- The first characters of the private-use blocks that are as long as there are surrogates. -/
def blocks : List Nat := (List.range 64).map fun i => 0xF0000 + 0x800 * i

/-- A block with no character in the texts. -/
def freeBlock (texts : List Text) : Nat :=
  (blocks.find? fun first => texts.all fun t => t.all fun p =>
    p.toNat < first || first + 0x800 ≤ p.toNat).getD 0xF0000

def put (first : Nat) (t : Text) : String :=
  String.ofList (t.map fun
    | .char c => c
    | .surrogate n => Char.ofNat (first + n))

def restore (first : Nat) (s : List Char) : Text :=
  s.map fun c =>
    if h : first ≤ c.toNat ∧ c.toNat < first + 0x800 then .surrogate ⟨c.toNat - first, by omega⟩
    else .char c

end StandIn

/-! ## Printing -/

/-- Print what `draw` makes of the texts, given how each one is drawn. -/
def print (texts : List Text)
    (draw : (Text → String) → Except Markup.Fault (List Char)) : Except Fault (List Char) :=
  if ∀ t ∈ texts, t.IsUnicode then
    (draw fun t => String.ofList t.shown).mapError fun f => .markup f f.message
  else
    let first := StandIn.freeBlock texts
    match draw (StandIn.put first) with
    | .error f => .error (.markup f (StandIn.restore first f.message.toList))
    | .ok s => (StandIn.restore first s).chars.mapError .unencodable

def printParagraph (markup : Text) : Except Fault (List Char) :=
  print [markup] fun drawn => paragraph (drawn markup)

def printPanel (title : String) (markup : Text) : Except Fault (List Char) :=
  print [markup] fun drawn => panel title (drawn markup)

theorem print_of_isUnicode {texts : List Text} (h : ∀ t ∈ texts, t.IsUnicode)
    (draw : (Text → String) → Except Markup.Fault (List Char)) :
    print texts draw =
      (draw fun t => String.ofList t.shown).mapError fun f => .markup f f.message := if_pos h

theorem printParagraph_ofString (s : String) :
    printParagraph s = (paragraph s).mapError fun f => .markup f f.message := by
  rw [printParagraph, print_of_isUnicode (by simp)]
  simp [Text.ofString]

end BindingIndex.Console
