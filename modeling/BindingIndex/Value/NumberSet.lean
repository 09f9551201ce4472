import BindingIndex.Value.Basic

/-!
# Sets of numbers

A set has no order of its own, but its members are shown and checked in one. Numbers stand in a
table with room for more: each at the place that its residue leads to, or at a later one if that is
taken. Members of other kinds stay in the order in which they were given.

* `NumberSet.residue?`: the residue of a number; equal numbers have the same.
* `NumberSet.ordered`: the members of a set in order.
-/

namespace BindingIndex.Value.NumberSet

/-- The prime that residues are taken by, one less than the sixty-first power of two. -/
def modulus : Nat := 2305843009213693951

/-- The number of words of sixty-four bits. -/
def words : Int := 18446744073709551616

/-- A residue with a sign, as a word. The one below zero is never used. -/
def word (negative : Bool) (n : Nat) : Nat :=
  let signed : Int := if negative then -(n : Int) else n
  ((if signed = -1 then -2 else signed) % words).toNat

/-- The residue of a number or a truth value. A power of two has the residue of the power of two
whose exponent is the same modulo sixty-one. -/
def residue? : Value → Option Nat
  | .bool b => some (word false (if b then 1 else 0))
  | .int n => some (word (n < 0) (n.natAbs % modulus))
  | .float x =>
    match Decimal.Binary64.ofFloat x with
    | .nan => none
    | .infinite negative => some (word negative 314159)
    | .finite negative m e =>
      some (word negative (m * Nat.pow 2 (e % 61).toNat % modulus))
  | _ => none

/-- Double a size until it is greater than a bound. -/
def doubled (bound : Nat) : Nat → Nat → Nat
  | 0, size => size
  | fuel + 1, size => if size ≤ bound then doubled bound fuel (2 * size) else size

/-- The places of the table for some members: eight, or more than twice their number. -/
def tableSize (members : Nat) : Nat := if members < 5 then 8 else doubled (2 * members) members 8

/-- The free place of a table that a place leads to. Up to ten places in a row are tried, if there
are as many, before the rest of the residue leads elsewhere. -/
def freePlace (table : Array (Option Value)) : Nat → Nat → Nat → Nat
  | 0, place, _ => place
  | fuel + 1, place, rest =>
    let run := if place + 9 < table.size then 10 else 1
    match ((List.range run).map (place + ·)).find? fun p => (table.getD p none).isNone with
    | some p => p
    | none => freePlace table fuel ((place * 5 + 1 + rest / 32) % table.size) (rest / 32)

def insert (table : Array (Option Value)) (v : Value) (residue : Nat) : Array (Option Value) :=
  table.setIfInBounds (freePlace table (table.size + 16) (residue % table.size) residue) (some v)

def ordered (members : List Value) : List Value :=
  match members.mapM residue? with
  | none => members
  | some residues =>
    let table := Array.replicate (tableSize members.length) none
    let table := (members.zip residues).foldl (fun t (v, r) => insert t v r) table
    table.toList.filterMap id

end BindingIndex.Value.NumberSet
