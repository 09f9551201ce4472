import BindingIndex.Text.Blank
import BindingIndex.Text.Digits
import BindingIndex.Text.Lower
import BindingIndex.Value.Basic
import BindingIndex.Value.Literal
import BindingIndex.Yaml.Tag
import BindingIndex.Yaml.Token

/-!
# Numbers, dates and bytes in documents

Reading the text of a scalar whose kind is known. A text that does not fit its kind is a fault of
its own, since a tag may force any kind on any text.

* `readInt`, `readFloat`, `readTimestamp`, `readBinary`, `readBool`.
-/

namespace BindingIndex.Yaml

/-- A number that may have a sign: whether it is negative, and the rest. -/
def takeSign (s : Text) : Bool × Text :=
  match s.shown with
  | '-' :: _ => (true, s.drop 1)
  | '+' :: _ => (false, s.drop 1)
  | _ => (false, s)

def signed (negative : Bool) (n : Int) : Int := if negative then -n else n

def withoutUnderscores (s : Text) : Text := s.filter (· ≠ .char '_')

def colonParts (s : Text) : List Text := s.splitOn (.char ':')

/-- White space that may stand around a number; the four separators of old records may not. -/
def isPadding (c : Char) : Bool := Text.isBlank c && !(0x1C ≤ c.toNat && c.toNat ≤ 0x1F)

def unpadded (s : Text) : Text :=
  let blank := fun n => isPadding (n.shown)
  ((s.dropWhile blank).reverse.dropWhile blank).reverse

/-! ## Integers -/

/-- The value of a digit of a base, in any script for the decimal ones. -/
def baseDigit? (base : Nat) (c : Char) : Option Nat :=
  match Text.decimal? c with
  | some d => if d < base then some d else none
  | none =>
    if c.isAlpha then
      let d := digitValue c
      if d < base then some d else none
    else none

/-- Digits of a base, of which there has to be one. -/
def readDigits (base : Nat) (s : List Char) : Option Nat :=
  if s = [] then none
  else s.foldl (fun n c => match n, baseDigit? base c with
    | some n, some d => some (n * base + d)
    | _, _ => none) (some 0)

def baseLetter : Nat → Char
  | 2 => 'b'
  | 8 => 'o'
  | 16 => 'x'
  | _ => eof

/-- A text as an integer of a base: white space around it, a sign and the mark of the base may
stand with the digits. The number of decimal digits is limited. -/
def integer (base : Nat) (text : Text) : Except Fault Int :=
  let (negative, s) := takeSign (unpadded text)
  let s := s.shown
  let body := match s with
    -- the mark of the base may stand here, even where one has been taken off
    | '0' :: c :: rest => if Text.lowerAscii c = baseLetter base then rest else s
    | _ => s
  let count := (body.takeWhile fun c => (Text.decimal? c).isSome).length
  if base = 10 ∧ Text.maxDigits < count then .error (.tooManyDigits count)
  else
    match readDigits base body with
    | some n => .ok (signed negative n)
    | none => .error (.integer text base)

def sixties (parts : List Int) : Int := parts.foldl (fun n d => n * 60 + d) 0

def readInt (text : Text) : Except Fault Int := do
  let (negative, s) := takeSign (withoutUnderscores text)
  let n ← match s.shown with
    | [] => throw .emptyNumber
    | ['0'] => pure 0
    | '0' :: 'b' :: _ => integer 2 (s.drop 2)
    | '0' :: 'x' :: _ => integer 16 (s.drop 2)
    | '0' :: _ => integer 8 s
    | cs => if cs.contains ':' then sixties <$> (colonParts s).mapM (integer 10) else integer 10 s
  return signed negative n

/-! ## Floats -/

def isDecimal (c : Char) : Bool := (Text.decimal? c).isSome

def decimals (s : List Char) : Nat := s.foldl (fun n c => n * 10 + (Text.decimal? c).getD 0) 0

/-- An exponent of ten, or nothing. -/
def exponent? : List Char → Option Int
  | [] => some 0
  | e :: rest =>
    let (negative, s) := match rest with
      | '-' :: rest => (true, rest)
      | '+' :: rest => (false, rest)
      | rest => (false, rest)
    if e = 'e' ∧ s ≠ [] ∧ s.all isDecimal then some (signed negative (decimals s)) else none

/-- A number in lower case without a sign, in decimal notation or by its word. -/
def unsignedFloat? (s : List Char) : Option (Bool → Float) :=
  let word := String.ofList s
  if word = "inf" ∨ word = "infinity" then
    some fun negative => if negative then -(1.0 / 0.0) else 1.0 / 0.0
  else if word = "nan" then some fun _ => 0.0 / 0.0
  else
    let whole := s.takeWhile isDecimal
    let rest := s.dropWhile isDecimal
    let (fraction, rest) := match rest with
      | '.' :: rest => (rest.takeWhile isDecimal, rest.dropWhile isDecimal)
      | rest => ([], rest)
    if whole = [] ∧ fraction = [] then none
    else (exponent? rest).map fun e negative =>
      Decimal.toFloat negative (decimals (whole ++ fraction)) (e - fraction.length)

/-- A text in lower case as a float: white space around it and a sign may stand with the number. -/
def float (text : Text) : Except Fault Float :=
  let (negative, s) := takeSign (unpadded text)
  match unsignedFloat? s.shown with
  | some x => .ok (x negative)
  | none => .error (.float text)

/-- Numbers between colons from the last one on; `worth` is what a one counts there, sixty times as
much at each step. It is exact, and rounded only where it meets a number. -/
def floatSixties (total : Float) (worth : Nat) : List Float → Except Fault Float
  | [] => .ok total
  | x :: rest =>
    let w := Decimal.toFloat false worth 0
    if w.isInf then .error .hugeWorth else floatSixties (total + x * w) (worth * 60) rest

/-- A float scalar without what does not count, underscores and case, and whether it is negative. -/
def floatBody (text : Text) : Bool × Text :=
  takeSign (withoutUnderscores text).lowered

def isNaNWord (text : Text) : Bool := (floatBody text).2.shown == ['.', 'n', 'a', 'n']

def readFloat (text : Text) : Except Fault Float := do
  if withoutUnderscores text = [] then throw .emptyNumber
  let (negative, s) := floatBody text
  let x ←
    if s.shown = ['.', 'i', 'n', 'f'] then pure (1.0 / 0.0)
    else if isNaNWord text then pure (0.0 / 0.0)
    else if s.contains (.char ':') then do floatSixties 0.0 1 (← (colonParts s).mapM float).reverse
    else float s
  return if negative then -1.0 * x else x

/-! ## Truth values -/

def readBool (text : Text) : Except Fault Bool :=
  let w := String.ofList text.lowered.shown
  if ["yes", "true", "on"].contains w then .ok true
  else if ["no", "false", "off"].contains w then .ok false
  else .error (.truth text.lowered)

/-! ## Dates -/

def daysIn (year month : Nat) : Nat :=
  if month = 2 then
    if year % 4 = 0 ∧ (year % 100 ≠ 0 ∨ year % 400 = 0) then 29 else 28
  else if month = 4 ∨ month = 6 ∨ month = 9 ∨ month = 11 then 30
  else 31

/-- A date that the calendar has. -/
def date (year month day : Nat) : Except Fault Date :=
  if year = 0 then .error (.calendar ("year " ++ toString year ++ " is out of range"))
  else if month = 0 ∨ 12 < month then .error (.calendar "month must be in 1..12")
  else if day = 0 ∨ daysIn year month < day then .error (.calendar "day is out of range for month")
  else .ok ⟨year, month, day⟩

/-- An offset from UTC, which has to be less than a day. -/
def offset (negative : Bool) (hours minutes : Nat) : Except Fault Int :=
  let seconds := signed negative ((hours * 60 + minutes) * 60)
  if seconds.natAbs < 86400 then .ok seconds
  else
    .error (.calendar ("offset must be a timedelta strictly between -timedelta(hours=24) and " ++
      "timedelta(hours=24), not " ++ Value.durationLiteral seconds ++ "."))

/-- The microseconds of a fraction: its first six digits. -/
def micros (fraction : List Char) : Nat :=
  let s := fraction.take 6
  decimals s * Nat.pow 10 (6 - s.length)

/-- The text of a date or a point in time; one line feed at its end does not count. -/
def readTimestamp (text : Text) : Except Fault Value := do
  match Tag.timeParts? (Tag.withoutLastFeed text.shown) with
  | none => throw .timestamp
  | some p =>
    match p.clock with
    | none => return .date (← date (decimals p.year) (decimals p.month) (decimals p.day))
    | some clock =>
      -- a fault of the offset comes before one of the date
      let off ← match p.zone with
        | none => pure none
        | some .utc => pure (some 0)
        | some (.offset c h m) => some <$> offset (c == '-') (decimals h) (decimals m)
      let d ← date (decimals p.year) (decimals p.month) (decimals p.day)
      let h := decimals clock.hour
      let m := decimals clock.minute
      let s := decimals clock.second
      if 23 < h then throw (.calendar "hour must be in 0..23")
      if 59 < m then throw (.calendar "minute must be in 0..59")
      if 59 < s then throw (.calendar "second must be in 0..59")
      return .moment ⟨d, h, m, s, micros clock.fraction, off⟩

/-! ## Bytes -/

def base64Digit? (c : Char) : Option Nat :=
  if 'A' ≤ c ∧ c ≤ 'Z' then some (c.toNat - 65)
  else if 'a' ≤ c ∧ c ≤ 'z' then some (c.toNat - 71)
  else if c.isDigit then some (c.toNat + 4)
  else if c = '+' then some 62
  else if c = '/' then some 63
  else none

/-- Decode base-64 digits. Other characters do not count; `place` is the number of digits of the
group so far, `left` their bits that are still to be written and `pads` the padding after them. A
padded group ends the bytes. -/
def base64 (place left pads : Nat) : List Char → Option (List UInt8)
  | [] => if place = 0 then some [] else none
  | c :: rest =>
    if c = '=' then
      if 2 ≤ place ∧ 4 ≤ place + (pads + 1) then some []
      else base64 place left (if 2 ≤ place then pads + 1 else pads) rest
    else
      match base64Digit? c with
      | none => base64 place left pads rest
      | some d =>
        match place with
        | 0 => base64 1 d 0 rest
        | 1 => (base64 2 (d % 16) 0 rest).map (UInt8.ofNat (left * 4 + d / 16) :: ·)
        | 2 => (base64 3 (d % 4) 0 rest).map (UInt8.ofNat (left * 16 + d / 4) :: ·)
        | _ => (base64 0 0 0 rest).map (UInt8.ofNat (left * 64 + d) :: ·)

/-- The text of a binary scalar, which has to be ASCII. -/
def readBinary (text : Text) : Except Fault (List UInt8) :=
  if text.any (0x80 ≤ ·.toNat) then .error .malformed
  else
    match base64 0 0 0 text.shown with
    | some b => .ok b
    | none => .error .malformed

end BindingIndex.Yaml
