/-!
# Decimal digits

Every script's decimal digits stand in runs of ten, from zero to nine.

* `Text.digitZeros`: the code points of the zeros (Unicode version 14).
* `Text.decimal?`: the value of a decimal digit of any script.
* `Text.maxDigits`: how many digits a decimal number may have, with the complaints about more, read
  or to be written.
-/

namespace BindingIndex.Text

def digitZeros : List Nat :=
  [
    48, 1632, 1776, 1984, 2406, 2534, 2662, 2790, 2918, 3046, 3174, 3302, 3430, 3558, 3664, 3792,
    3872, 4160, 4240, 6112, 6160, 6470, 6608, 6784, 6800, 6992, 7088, 7232, 7248, 42528, 43216,
    43264, 43472, 43504, 43600, 44016, 65296, 66720, 68912, 69734, 69872, 69942, 70096, 70384,
    70736, 70864, 71248, 71360, 71472, 71904, 72016, 72784, 73040, 73120, 92768, 92864, 93008,
    120782, 120792, 120802, 120812, 120822, 123200, 123632, 125264, 130032
  ]

def decimal? (c : Char) : Option Nat :=
  (digitZeros.find? fun z => z ≤ c.toNat && c.toNat < z + 10).map fun z => c.toNat - z

/-- The most digits of a decimal number that is read or written. -/
def maxDigits : Nat := 4300

/-- The first number that has more digits. -/
def firstTooLong : Nat := Nat.pow 10 maxDigits

/-- The complaint about a decimal number with too many digits; what is known of it comes after the
limit. -/
def digitsComplaint (known : String) : String :=
  "Exceeds the limit (" ++ toString maxDigits ++ " digits) for integer string conversion" ++
    known ++ "; use sys.set_int_max_str_digits() to increase the limit"

/-- The complaint about a number that is read. -/
def tooManyDigits (count : Nat) : String :=
  digitsComplaint (": value has " ++ toString count ++ " digits")

end BindingIndex.Text
