import BindingIndex.Decimal.Binary64
import BindingIndex.Text.Basic

/-!
# Dynamic values

What a configuration document or a caller hands over, before it is validated. Containers read from a
document carry a label, so that a container met inside itself can be told from an equal one.

* `Value`, `Date`, `Moment`: the values.
* `Value.isTruthy`: the values that count as given.
* `Value.sameKey`: when two keys of a mapping are one.
* `Value.field?`: look a text key up.
-/

namespace BindingIndex

structure Date where
  year : Nat
  month : Nat
  day : Nat
  deriving DecidableEq, Repr

/-- A date and a time of day, with the offset from UTC in seconds if it has one. -/
structure Moment where
  date : Date
  hour : Nat
  minute : Nat
  second : Nat
  micro : Nat
  offset : Option Int
  deriving DecidableEq, Repr

/-- The days from the first day of year 0 to a date, by the Gregorian calendar. -/
def Date.days (d : Date) : Int :=
  -- a year is counted from March on, which makes a leap day its last
  let y : Int := if d.month ≤ 2 then (d.year : Int) - 1 else d.year
  let m : Int := ((d.month : Int) + 9) % 12
  365 * y + y / 4 - y / 100 + y / 400 + (m * 306 + 5) / 10 + d.day

/-- The microseconds of a moment since a fixed day, at UTC if it has an offset. -/
def Moment.instant (m : Moment) : Int :=
  (((m.date.days * 24 + m.hour) * 60 + m.minute) * 60 + m.second - m.offset.getD 0) * 1000000
    + m.micro

inductive Value where
  | null
  | bool (b : Bool)
  | int (n : Int)
  | float (x : Float)
  | text (s : String)
  /-- A text with lone surrogates, which no `String` can hold. -/
  | codes (t : Text)
  | bytes (b : List UInt8)
  | date (d : Date)
  | moment (m : Moment)
  | list (label : Option Nat) (items : List Value)
  | tuple (items : List Value)
  | set (items : List Value)
  | dict (label : Option Nat) (entries : List (Value × Value))
  deriving Inhabited

namespace Value

def whole? : Value → Option Int
  | bool b => some (if b then 1 else 0)
  | int n => some n
  | float x => (Decimal.Binary64.ofFloat x).whole?
  | _ => none

/-- Does the value count as given? Empty texts and containers, zeros, `false` and null do not. -/
def isTruthy : Value → Bool
  | null => false
  | bool b => b
  | text s => s ≠ ""
  | codes t => t ≠ []
  | bytes b => b ≠ []
  | list _ xs => !xs.isEmpty
  | tuple xs => !xs.isEmpty
  | set xs => !xs.isEmpty
  | dict _ es => !es.isEmpty
  | date _ => true
  | moment _ => true
  | v => v.whole? ≠ some 0

/-- Are two keys of a mapping the same? Numbers and truth values are compared by value, moments by
the instant when both have an offset. What is not a number is not even the same as itself. -/
def sameKey : Value → Value → Bool
  | null, null => true
  | text s, text t => s == t
  | codes p, codes q => p == q
  | bytes b, bytes c => b == c
  | date d, date e => d == e
  | moment m, moment n =>
    m.offset.isSome == n.offset.isSome && m.instant == n.instant
  | float x, float y => x == y
  | a, b =>
    match a.whole?, b.whole? with
    | some m, some n => m == n
    | _, _ => false

/-- The value of a text that may hold lone surrogates. -/
def ofText (t : Text) : Value :=
  match t.toString? with
  | some s => text s
  | none => codes t

@[simp] theorem ofText_ofString (s : String) : ofText s = text s := by
  simp [ofText]

/-- The value under a text key. -/
def lookup (key : String) : List (Value × Value) → Option Value
  | [] => none
  | (text k, v) :: rest => if k = key then some v else lookup key rest
  | _ :: rest => lookup key rest

/-- A mapping from texts, without a label. -/
def record (fields : List (String × Value)) : Value :=
  .dict none (fields.map fun (k, v) => (.text k, v))

end Value

end BindingIndex
