import BindingIndex.Yaml.Cursor

/-!
# Tags of scalars

The kind of value that a node stands for. A plain scalar without a tag gets one by its text: truth
words, numbers, dates, the null words, the merge key and the default-value key.

* `Tag`, `Tag.ofUri`: the kinds and their names.
* `Tag.ofPlain`: the kind of a plain scalar.
-/

namespace BindingIndex.Yaml

inductive Tag where
  | null
  | bool
  | int
  | float
  | text
  | binary
  | timestamp
  | merge
  | valueKey
  | sequence
  | mapping
  | set
  | orderedMap
  | pairs
  | other (uri : String)
  deriving DecidableEq, Repr

namespace Tag

/-- The common start of the names of the standard kinds. -/
def standard : String := "tag:yaml.org,2002:"

def ofUri (uri : String) : Tag :=
  if uri = standard ++ "null" then .null
  else if uri = standard ++ "bool" then .bool
  else if uri = standard ++ "int" then .int
  else if uri = standard ++ "float" then .float
  else if uri = standard ++ "str" then .text
  else if uri = standard ++ "binary" then .binary
  else if uri = standard ++ "timestamp" then .timestamp
  else if uri = standard ++ "merge" then .merge
  else if uri = standard ++ "value" then .valueKey
  else if uri = standard ++ "seq" then .sequence
  else if uri = standard ++ "map" then .mapping
  else if uri = standard ++ "set" then .set
  else if uri = standard ++ "omap" then .orderedMap
  else if uri = standard ++ "pairs" then .pairs
  else .other uri

/-- The words for truth values, in the three cases they may have. -/
def truthWords : List String :=
  ["yes", "Yes", "YES", "no", "No", "NO", "true", "True", "TRUE", "false", "False", "FALSE", "on",
    "On", "ON", "off", "Off", "OFF"]

def nullWords : List String := ["~", "null", "Null", "NULL", ""]

def unsigned : List Char → List Char
  | '+' :: rest => rest
  | '-' :: rest => rest
  | s => s

def isSpacedDigit (c : Char) : Bool := c.isDigit || c == '_'

/-- Is it a signed exponent, or nothing? -/
def isExponent : List Char → Bool
  | [] => true
  | e :: sign :: d :: rest =>
    (e == 'e' || e == 'E') && (sign == '+' || sign == '-') && (d :: rest).all Char.isDigit
  | _ => false

/-- What follows the groups of one or two base-60 digits after colons; `none` if there is no group
or a group is no such number. -/
def afterSixties (s : List Char) : Option (List Char) :=
  go s.length s
where
  go : Nat → List Char → Option (List Char)
    | 0, _ => none
    | fuel + 1, ':' :: rest =>
      let digits := rest.takeWhile Char.isDigit
      let after := rest.dropWhile Char.isDigit
      let ok := match digits with
        | [_] => true
        | [a, _] => a ≤ '5'
        | _ => false
      if !ok then none
      else if after.head? == some ':' then go fuel after
      else some after
    | _, _ => none

/-- Is the text a float with digits before its point? -/
def isFloatBody (s : List Char) : Bool :=
  let rest := s.dropWhile isSpacedDigit
  (s.headD eof).isDigit &&
    match rest with
    | '.' :: rest => isExponent (rest.dropWhile isSpacedDigit)
    | _ =>
      match afterSixties rest with
      | some ('.' :: rest) => rest.all isSpacedDigit
      | _ => false

def isFloat (s : List Char) : Bool :=
  isFloatBody (unsigned s) ||
    (match s with
      | '.' :: d :: rest => d.isDigit && isExponent (rest.dropWhile isSpacedDigit)
      | _ => false) ||
    [".inf", ".Inf", ".INF"].contains (String.ofList (unsigned s)) ||
    [".nan", ".NaN", ".NAN"].contains (String.ofList s)

def allOf (p : Char → Bool) (s : List Char) : Bool := s ≠ [] && s.all p

/-- Is the text an integer: binary, octal, decimal, hexadecimal or in base 60? -/
def isInt (s : List Char) : Bool :=
  match unsigned s with
  | ['0'] => true
  | '0' :: 'b' :: rest => allOf (fun c => c == '0' || c == '1' || c == '_') rest
  | '0' :: 'x' :: rest => allOf (fun c => isHexDigit c || c == '_') rest
  | '0' :: rest => allOf (fun c => ('0' ≤ c && c ≤ '7') || c == '_') rest
  | d :: rest =>
    d.isDigit &&
      match rest.dropWhile isSpacedDigit with
      | [] => true
      | more => afterSixties more == some []
  | [] => false

/-- Digits of a given count at the start of a text; the rest. -/
def digits (least most : Nat) (s : List Char) : Option (List Char × List Char) :=
  let n := min most (s.takeWhile Char.isDigit).length
  if least ≤ n then some (s.take n, s.drop n) else none

def sign (c : Char) : List Char → Option (List Char)
  | d :: rest => if d = c then some rest else none
  | [] => none

structure ClockParts where
  hour : List Char
  minute : List Char
  second : List Char
  fraction : List Char
  deriving Repr

inductive ZoneParts where
  | utc
  | offset (sign : Char) (hours minutes : List Char)
  deriving Repr

structure TimeParts where
  year : List Char
  month : List Char
  day : List Char
  clock : Option ClockParts
  zone : Option ZoneParts
  deriving Repr

/-- The offset at the end of a point in time, which may have none. -/
def zone? (s : List Char) : Option (Option ZoneParts) :=
  match s with
  | [] => some none
  | _ =>
    match s.dropWhile isInlineBlank with
    | ['Z'] => some (some .utc)
    | c :: rest =>
      if c == '+' || c == '-' then
        match digits 1 2 rest with
        | some (h, []) => some (some (.offset c h []))
        | some (h, ':' :: rest) =>
          match digits 2 2 rest with
          | some (m, []) => some (some (.offset c h m))
          | _ => none
        | _ => none
      else none
    | [] => none

def clock? (s : List Char) : Option (ClockParts × Option ZoneParts) := do
  let rest ← match s with
    | 'T' :: rest => some rest
    | 't' :: rest => some rest
    | c :: rest => if isInlineBlank c then some (rest.dropWhile isInlineBlank) else none
    | [] => none
  let (hour, rest) ← digits 1 2 rest
  let rest ← sign ':' rest
  let (minute, rest) ← digits 2 2 rest
  let rest ← sign ':' rest
  let (second, rest) ← digits 2 2 rest
  let (fraction, rest) := match rest with
    | '.' :: rest => (rest.takeWhile Char.isDigit, rest.dropWhile Char.isDigit)
    | rest => ([], rest)
  let zone ← zone? rest
  return (⟨hour, minute, second, fraction⟩, zone)

def timeParts? (s : List Char) : Option TimeParts := do
  let (year, rest) ← digits 4 4 s
  let rest ← sign '-' rest
  let (month, rest) ← digits 1 2 rest
  let rest ← sign '-' rest
  let (day, rest) ← digits 1 2 rest
  match rest with
  | [] => return ⟨year, month, day, none, none⟩
  | rest =>
    let (clock, zone) ← clock? rest
    return ⟨year, month, day, some clock, zone⟩

/-- Is the text a date, with two digits each for month and day, or a point in time? -/
def isTimestamp (s : List Char) : Bool :=
  match timeParts? s with
  | some p => p.clock.isSome || (p.month.length == 2 && p.day.length == 2)
  | none => false

/-- A text without one line feed at its end, if it holds anything else. -/
def withoutLastFeed (text : List Char) : List Char :=
  if text.getLast? == some '\n' && text.length ≠ 1 then text.dropLast else text

/-- The kind of a plain scalar by its text; one line feed at its end does not count. -/
def ofPlain (text : List Char) : Tag :=
  let s := withoutLastFeed text
  let t := String.ofList s
  if truthWords.contains t then .bool
  else if isFloat s then .float
  else if isInt s then .int
  else if t = "<<" then .merge
  else if nullWords.contains t then .null
  else if isTimestamp s then .timestamp
  else if t = "=" then .valueKey
  else if t = "!" ∨ t = "&" ∨ t = "*" then .other (standard ++ "yaml")
  else .text

end Tag

end BindingIndex.Yaml
