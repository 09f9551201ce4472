import BindingIndex.Decimal.Binary64

/-!
# Shortest decimals

The fewest decimal digits that read back as the same double, and of those the nearest to it. The
digits are found on the grids of 1 to 17 digits: of the two points next to the value, the first grid
that has one inside the interval of reals rounding to the double decides.

* `Decimal.Rounding`: the interval of a double.
* `Decimal.shortest`: the digits and the place of the decimal point.
* `Decimal.Style`, `Decimal.write`: how the digits are written down.
-/

namespace BindingIndex.Decimal

/-- The zeros right after the point of `num / den`, where that is below one. -/
def zerosAfterPoint (den : Nat) : Nat → Nat → Nat
  | 0, _ => 0
  | fuel + 1, num => if den ≤ num * 10 then 0 else zerosAfterPoint den fuel (num * 10) + 1

/-- The least `k` with `num / den < 10 ^ k`: the digits before the point, or minus the zeros after
it. No double has as many as 400 of those. -/
def magnitude (num den : Nat) : Int :=
  if den ≤ num then (toString (num / den)).length else -(zerosAfterPoint den 400 num : Int)

/-- A value with the interval of reals that round to it, all over one denominator. -/
structure Rounding where
  value : Nat
  low : Nat
  high : Nat
  den : Nat
  /-- Do the ends of the interval belong to it? -/
  closed : Bool
  deriving DecidableEq, Repr

namespace Rounding

/-- The interval around `m · 2 ^ e`. Below a power of two the doubles stand twice as close. -/
def ofBinary (m : Nat) (e : Int) : Rounding :=
  let unit := Nat.pow 2 e.toNat
  let value := 4 * m * unit
  { value
    low := value - (if m = Binary64.fractionLimit ∧ -1074 < e then unit else 2 * unit)
    high := value + 2 * unit
    den := 4 * Nat.pow 2 (-e).toNat
    closed := m % 2 = 0 }

/-- Is the fraction `num / den` inside the interval? Both sides are given times `r.den`. -/
def holds (r : Rounding) (num den : Nat) : Bool :=
  if r.closed then r.low * den ≤ num && num ≤ r.high * den
  else r.low * den < num && num < r.high * den

end Rounding

structure Scaled where
  digits : Nat
  exponent : Int
  deriving DecidableEq, Repr

/-- The point nearest to the value, of the two next to it on the grid of `n` digits, if one is
inside the interval. A tie goes to the even one; `k` is the magnitude of the value. -/
def onGrid? (r : Rounding) (k : Int) (n : Nat) : Option Scaled :=
  let up := Nat.pow 10 ((n : Int) - k).toNat
  let down := r.den * Nat.pow 10 (k - n).toNat
  let d := r.value * up / down
  let below := r.value * up - d * down
  let above := (d + 1) * down - r.value * up
  if r.holds (d * down) up && 0 < d then
    -- both points may be inside: the nearer one then, and of two as near the even one
    if r.holds ((d + 1) * down) up && (above < below || (above = below && d % 2 = 1)) then
      some ⟨d + 1, k - n⟩
    else some ⟨d, k - n⟩
  else if r.holds ((d + 1) * down) up then some ⟨d + 1, k - n⟩
  else none

/-- The shortest decimal inside the interval around `m · 2 ^ e`, for positive `m`. -/
def shortest (m : Nat) (e : Int) : Scaled :=
  let r := Rounding.ofBinary m e
  let k := magnitude r.value r.den
  (((List.range 17).map (· + 1)).findSome? (onGrid? r k)).getD ⟨m, e⟩

/-- How a float is written: positionally when the point stands at most `lastPoint` digits after the
first one and at most `leadingZeros` zeros before it, else with an exponent of at least
`exponentWidth` digits. -/
structure Style where
  leadingZeros : Nat
  lastPoint : Nat
  exponentWidth : Nat
  notANumber : String
  infinity : String
  deriving Repr

/-- A decimal by its digits and the place of the point, counted from before the first digit. -/
def writeDigits (style : Style) (digits : List Char) (point : Int) : String :=
  if -(style.leadingZeros : Int) ≤ point ∧ point ≤ style.lastPoint then
    if point ≤ 0 then "0." ++ String.ofList (List.replicate (-point).toNat '0' ++ digits)
    else
      let n := point.toNat
      let whole := digits.take n ++ List.replicate (n - digits.length) '0'
      let rest := digits.drop n
      String.ofList whole ++ "." ++ (if rest = [] then "0" else String.ofList rest)
  else
    let e := point - 1
    let size := toString e.natAbs
    let size := String.ofList (List.replicate (style.exponentWidth - size.length) '0') ++ size
    let rest := digits.drop 1
    String.ofList (digits.take 1) ++ (if rest = [] then "" else "." ++ String.ofList rest) ++ "e" ++
      (if e < 0 then "-" else "+") ++ size

def write (style : Style) (x : Float) : String :=
  match Binary64.ofFloat x with
  | .nan => style.notANumber
  | .infinite negative => (if negative then "-" else "") ++ style.infinity
  | .finite negative m e =>
    let sign := if negative then "-" else ""
    if m = 0 then sign ++ "0.0"
    else
      let s := shortest m e
      let all := (toString s.digits).toList
      let digits := (all.reverse.dropWhile (· = '0')).reverse
      sign ++ writeDigits style digits (s.exponent + all.length)

end BindingIndex.Decimal
