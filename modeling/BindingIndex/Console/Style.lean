import BindingIndex.Text.Blank
import BindingIndex.Text.Digits
import BindingIndex.Text.Lower

/-!
# Style names

A style of the console is named by words: attributes, which `not` switches off, a color, `on` and a
background color, `link` and an address. Two names of one style have the same normal name; a name
that is no style is its own, in lower case.

* `Console.isColor`: the names of colors.
* `Console.Style`: what the words of a name add up to.
* `Console.Style.normalName`: the normal name.
-/

namespace BindingIndex.Console

/-- The colors with a name of their own, shades of grey apart. -/
def colorNames : List String :=
  [
    "default", "black", "red", "green", "yellow", "blue", "magenta", "cyan", "white",
    "bright_black", "bright_red", "bright_green", "bright_yellow", "bright_blue",
    "bright_magenta", "bright_cyan", "bright_white", "navy_blue", "dark_blue", "blue3", "blue1",
    "dark_green", "deep_sky_blue4", "dodger_blue3", "dodger_blue2", "green4", "spring_green4",
    "turquoise4", "deep_sky_blue3", "dodger_blue1", "green3", "spring_green3", "dark_cyan",
    "light_sea_green", "deep_sky_blue2", "deep_sky_blue1", "spring_green2", "cyan3",
    "dark_turquoise", "turquoise2", "green1", "spring_green1", "medium_spring_green", "cyan2",
    "cyan1", "dark_red", "deep_pink4", "purple4", "purple3", "blue_violet", "orange4",
    "medium_purple4", "slate_blue3", "royal_blue1", "chartreuse4", "dark_sea_green4",
    "pale_turquoise4", "steel_blue", "steel_blue3", "cornflower_blue", "chartreuse3",
    "cadet_blue", "sky_blue3", "steel_blue1", "pale_green3", "sea_green3", "aquamarine3",
    "medium_turquoise", "chartreuse2", "sea_green2", "sea_green1", "aquamarine1",
    "dark_slate_gray2", "dark_magenta", "dark_violet", "purple", "light_pink4", "plum4",
    "medium_purple3", "slate_blue1", "yellow4", "wheat4", "light_slate_grey", "light_slate_gray",
    "medium_purple", "light_slate_blue", "dark_olive_green3", "dark_sea_green", "light_sky_blue3",
    "sky_blue2", "dark_sea_green3", "dark_slate_gray3", "sky_blue1", "chartreuse1", "light_green",
    "pale_green1", "dark_slate_gray1", "red3", "medium_violet_red", "magenta3", "dark_orange3",
    "indian_red", "hot_pink3", "medium_orchid3", "medium_orchid", "medium_purple2",
    "dark_goldenrod", "light_salmon3", "rosy_brown", "medium_purple1", "gold3", "dark_khaki",
    "navajo_white3", "light_steel_blue3", "light_steel_blue", "yellow3", "dark_sea_green2",
    "light_cyan3", "light_sky_blue1", "green_yellow", "dark_olive_green2", "dark_sea_green1",
    "pale_turquoise1", "deep_pink3", "magenta2", "hot_pink2", "orchid", "medium_orchid1",
    "orange3", "light_pink3", "pink3", "plum3", "violet", "light_goldenrod3", "tan",
    "misty_rose3", "thistle3", "plum2", "khaki3", "light_goldenrod2", "light_yellow3",
    "light_steel_blue1", "yellow2", "dark_olive_green1", "honeydew2", "light_cyan1", "red1",
    "deep_pink2", "deep_pink1", "magenta1", "orange_red1", "indian_red1", "hot_pink",
    "dark_orange", "salmon1", "light_coral", "pale_violet_red1", "orchid2", "orchid1", "orange1",
    "sandy_brown", "light_salmon1", "light_pink1", "pink1", "plum1", "gold1", "navajo_white1",
    "misty_rose1", "thistle1", "yellow1", "light_goldenrod1", "khaki1", "wheat1", "cornsilk1"
  ]

def shades : List Nat :=
  [
    0, 3, 7, 11, 15, 19, 23, 27, 30, 35, 37, 39, 42, 46, 50, 53, 54, 58, 62, 63, 66, 69, 70, 74,
    78, 82, 84, 85, 89, 93, 100
  ]

inductive ComponentFault where
  | empty
  /-- It has more digits than a number may be read from. -/
  | tooLong (digits : Nat)
  deriving DecidableEq, Repr

def ComponentFault.message : ComponentFault → String
  | empty => "invalid literal for int() with base 10: ''"
  | tooLong digits => Text.tooManyDigits digits

inductive StyleFault where
  | unknown
  | component (f : ComponentFault)
  deriving DecidableEq, Repr

/-- What stands between the parentheses of a call. -/
def argumentOf? (name : String) (s : List Char) : Option (List Char) :=
  if (name.toList ++ ['(']).isPrefixOf s then
    match (s.drop (name.length + 1)).reverse with
    | ')' :: body => some body.reverse
    | _ => none
  else none

/-- The number that decimal digits of any script write. -/
def numberOf (s : List Char) : Nat := s.foldl (fun n c => n * 10 + (Text.decimal? c).getD 0) 0

/-- Is the text a color number, of at most three digits? -/
def isColorNumber (s : List Char) : Bool :=
  s ≠ [] && s.length ≤ 3 && s.all Char.isDigit && numberOf s ≤ 255

def component (s : List Char) : Except StyleFault Nat :=
  if s = [] then .error (.component .empty)
  else if Text.maxDigits < s.length then .error (.component (.tooLong s.length))
  else .ok (numberOf s)

/-- Is the text three components, separated by commas? -/
def areComponents (s : List Char) : Except StyleFault Bool :=
  if s.all fun c => c = ',' || (Text.decimal? c).isSome then
    match s.splitOn ',' with
    | [r, g, b] => do return (← [r, g, b].mapM component).all (· ≤ 255)
    | _ => .ok false
  else .ok false

def isSmallHex (c : Char) : Bool := c.isDigit || ('a' ≤ c && c ≤ 'f')

/-- Is the text a shade of grey, in either spelling? -/
def isShade (s : String) : Bool :=
  shades.any fun n => s = "grey" ++ toString n || s = "gray" ++ toString n

/-- Does a name in lower case name a color? -/
def isColor (s : List Char) : Except StyleFault Bool :=
  if colorNames.contains (String.ofList s) || isShade (String.ofList s) then .ok true
  else
    match s, argumentOf? "color" s, argumentOf? "rgb" s with
    | '#' :: digits, _, _ => .ok (digits.length = 6 && digits.all isSmallHex)
    | _, some n, _ => .ok (isColorNumber n)
    | _, _, some components => areComponents components
    | _, _, _ => .ok false

def colorName (s : List Char) : Except StyleFault String :=
  match isColor (Text.lower s) with
  | .ok true => .ok (String.ofList (Text.lower s))
  | .ok false => .error .unknown
  | .error f => .error f

/-- The attributes in the order of a normal name. -/
def attributes : List String :=
  ["bold", "dim", "italic", "underline", "blink", "blink2", "reverse", "conceal", "strike",
    "underline2", "frame", "encircle", "overline"]

def shortNames : List (String × String) :=
  [("b", "bold"), ("d", "dim"), ("i", "italic"), ("u", "underline"), ("r", "reverse"),
    ("c", "conceal"), ("s", "strike"), ("uu", "underline2"), ("o", "overline")]

def attribute? (word : String) : Option String :=
  if attributes.contains word then some word else shortNames.lookup word

/-- What the words of a style name add up to; of two words for one thing the last counts. -/
structure Style where
  switches : List (String × Bool)
  color : Option String
  background : Option String
  link : Option String
  deriving DecidableEq, Repr

namespace Style

def plain : Style := ⟨[], none, none, none⟩

def switch (s : Style) (name : String) (on : Bool) : Style :=
  { s with switches := (name, on) :: s.switches }

def addWords (s : Style) : List (List Char) → Except StyleFault Style
  | [] => .ok s
  | word :: rest =>
    let w := String.ofList (Text.lower word)
    if w = "on" then
      match rest with
      | [] => .error .unknown
      | next :: rest =>
        match colorName next with
        | .error f => .error f
        | .ok c => addWords { s with background := some c } rest
    else if w = "not" then
      match rest with
      | [] => .error .unknown
      | next :: rest =>
        match attribute? (String.ofList next) with
        | none => .error .unknown
        | some a => addWords (s.switch a false) rest
    else if w = "link" then
      match rest with
      | [] => .error .unknown
      | next :: rest => addWords { s with link := some (String.ofList next) } rest
    else
      match attribute? w with
      | some a => addWords (s.switch a true) rest
      | none =>
        match colorName word with
        | .error f => .error f
        | .ok c => addWords { s with color := some c } rest

def switchWords (s : Style) (name : String) : List String :=
  match s.switches.lookup name with
  | some true => [name]
  | some false => ["not", name]
  | none => []

def words (s : Style) : List String :=
  attributes.flatMap s.switchWords ++ s.color.toList ++
    (s.background.elim [] fun c => ["on", c]) ++ (s.link.elim [] fun l => ["link", l])

def name (s : Style) : String := if s.words = [] then "none" else " ".intercalate s.words

/-- The normal name for a style name. Only a color whose component is no number has none. -/
def normalName (s : List Char) : Except ComponentFault String :=
  let t := Text.trim s
  if t = [] ∨ t = "none".toList then .ok "none"
  else
    match plain.addWords ((t.splitOnP Text.isBlank).filter (· ≠ [])) with
    | .ok style => .ok style.name
    | .error .unknown => .ok (String.ofList (Text.lower t))
    | .error (.component f) => .error f

end Style

end BindingIndex.Console
