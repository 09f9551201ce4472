/-!
# Binary floating point numbers, taken apart

A double is an integer times a power of two, an infinity or not a number. The exact parts are what
printing and whole-number tests work on.

* `Binary64.ofFloat`: the parts of a float.
* `Binary64.whole?`: the integer that a float is equal to, if there is one.
* `Decimal.toFloat`: the float nearest to a decimal.
-/

namespace BindingIndex.Decimal

/-- The exact value of a double. -/
inductive Binary64 where
  | nan
  | infinite (negative : Bool)
  /-- The number `mantissa · 2 ^ exponent`, negated if `negative`. -/
  | finite (negative : Bool) (mantissa : Nat) (exponent : Int)
  deriving DecidableEq, Repr

namespace Binary64

/-- The weight of the lowest exponent bit, above fifty-two bits of fraction. -/
def fractionLimit : Nat := 4503599627370496

/-- Take a bit pattern apart: sign, eleven bits of exponent, fifty-two of fraction. -/
def ofBits (bits : UInt64) : Binary64 :=
  let n := bits.toNat
  let negative := n / fractionLimit / 2048 = 1
  let biased : Nat := n / fractionLimit % 2048
  let fraction := n % fractionLimit
  if biased = 2047 then if fraction = 0 then .infinite negative else .nan
  -- subnormal: no leading bit, and the exponent of the least normal numbers
  else if biased = 0 then .finite negative fraction (-1074)
  else .finite negative (fractionLimit + fraction) ((biased : Int) - 1075)

def ofFloat (x : Float) : Binary64 := ofBits x.toBits

def whole? : Binary64 → Option Int
  | .finite negative m e =>
    let sign := fun (n : Nat) => if negative then -(n : Int) else n
    let unit := Nat.pow 2 e.natAbs
    if 0 ≤ e then some (sign (m * unit))
    else if m % unit = 0 then some (sign (m / unit))
    else none
  | _ => none

end Binary64

/-- The float nearest to `mantissa · 10 ^ exponent`, negated if `negative`. Exponents far outside
the range of doubles are answered without computing the power. -/
def toFloat (negative : Bool) (mantissa : Nat) (exponent : Int) : Float :=
  let size := (toString mantissa).length
  let x :=
    if mantissa = 0 ∨ exponent + size < -400 then 0.0
    else if 400 < exponent then 1.0 / 0.0
    else if 0 ≤ exponent then Float.ofScientific mantissa false exponent.toNat
    else Float.ofScientific mantissa true (-exponent).toNat
  if negative then -x else x

end BindingIndex.Decimal
