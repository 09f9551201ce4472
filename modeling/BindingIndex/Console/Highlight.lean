import BindingIndex.Console.StyledText
import BindingIndex.Text.Pattern

/-!
# Highlights

What looks like a value in a paragraph is highlighted: tags, attributes, brackets, addresses, calls,
constants, numbers, paths, quoted texts. Without colors nothing of it is seen, but a highlight is a
span, and the console prints a span for itself.

* `Highlight.tag`, `Highlight.attribute`, `Highlight.bracket`, `Highlight.value`: what is
  highlighted.
* `StyledText.highlighted`: a text with its highlights.
-/

namespace BindingIndex.Console

open Text Pattern

namespace Highlight

def one (c : Char) : Pattern := char (· = c)

def wordChar : Pattern := char isWordChar

/-- Any character of a line. -/
def inLine : Pattern := char (· ≠ '\n')

def isHex (c : Char) : Bool := c.isDigit || ('a' ≤ c && c ≤ 'f') || ('A' ≤ c && c ≤ 'F')

def hexDigit : Pattern := char isHex

/-- Everything from the first angle bracket to the last one. -/
def tag : Pattern :=
  mark (one '<') ++
    mark (many (char fun c => isWordChar c || ['-', '.', ':', '|'].contains c)) ++
    mark (many (char fun _ => true)) ++ mark (one '>')

/-- A name, an equals sign and a value. -/
def attributeValue : Pattern :=
  mark (between 1 50 wordChar) ++ one '=' ++
    optional (mark (optional (one '"') ++ oneOrMore wordChar ++ optional (one '"')))

def bracket : Pattern := mark (oneOf "[]\x7b\x7d()")

/-! ## Addresses -/

/-- Four numbers with points between. -/
def dottedAddress : Pattern :=
  let number := between 1 3 asciiDigit
  mark (number ++ one '.' ++ number ++ one '.' ++ number ++ one '.' ++ number)

/-- Groups of up to four digits with one colon or two between. -/
def colonAddress : Pattern :=
  let group := between 1 4 hexDigit
  mark (between 1 7 (group ++ one ':' ++ optional (one ':')) ++ group)

/-- Pairs of digits, `n + 1` of them with dashes or colons between, or groups of four with points.
-/
def hardwareAddress (n groups : Nat) : Pattern :=
  let pair := between 1 2 hexDigit
  let group := times 4 hexDigit
  mark ((times n (pair ++ one '-') ++ pair) <|> (times n (pair ++ one ':') ++ pair) <|>
    (times groups (group ++ one '.') ++ group))

/-- Groups of eight, four, four, four and twelve digits with dashes between. -/
def identifier : Pattern :=
  mark (times 8 hexDigit ++ one '-' ++ times 4 hexDigit ++ one '-' ++ times 4 hexDigit ++ one '-' ++
    times 4 hexDigit ++ one '-' ++ times 12 hexDigit)

/-! ## Values -/

/-- A name that is called. -/
def called : Pattern :=
  mark (several true 0 none (char fun c => isWordChar c || c = '.')) ++ one '('

/-- A word with a meaning. -/
def constant (s : String) : Pattern := wordEdge true ++ mark (Pattern.text s) ++ wordEdge true

def ellipsis : Pattern := mark (Pattern.text "...")

def decimal : Pattern := oneOrMore asciiDigit ++ optional (one '.') ++ many asciiDigit

/-- An exponent of one digit or more, of few digits first if `short`. -/
def exponent (short : Bool) : Pattern :=
  optional (one 'e' ++ optional (oneOf "+-") ++ several short 1 none digit)

/-- A sum with an imaginary number, or one alone. -/
def imaginary : Pattern :=
  mark (notBehind isWordChar ++ optional (one '-') ++ decimal ++ exponent true ++
    optional (oneOf "+-" ++ decimal ++ exponent false) ++ one 'j')

def number : Pattern :=
  mark (
    (notBehind isWordChar ++ optional (one '-') ++ decimal ++ exponent true ++ wordEdge true) <|>
    (Pattern.text "0x" ++ many hexDigit))

def isFileChar (c : Char) : Bool := isWordChar c || ['-', '.', '+'].contains c

def path : Pattern :=
  mark (wordEdge false ++ many (one '/' ++ oneOrMore (char isFileChar)) ++ one '/') ++
    optional (mark (many (char isFileChar)))

/-- A text between two quotes; the one at its end follows no backslash. -/
def quoted (quote : String) : Pattern :=
  optional (one 'b') ++ Pattern.text quote ++ several true 0 none inLine ++ notBehind (· = '\\') ++
    Pattern.text quote

def anyQuoted : Pattern :=
  notBehind (fun c => c = '\\' || isWordChar c) ++
    mark (firstOf (quoted "'''") [quoted "'", quoted "\"\"\"", quoted "\""])

def location : Pattern :=
  mark (firstOf (Pattern.text "file") (["https", "http", "ws", "wss"].map Pattern.text) ++
    Pattern.text "://" ++
    many (char fun c => c.isAlphanum || "-$_+!\x60(),.?/;:&=%#~@".toList.contains c))

/-- A value of any kind; where two of them could start, the first kind counts. -/
def value : Pattern :=
  firstOf dottedAddress [colonAddress, hardwareAddress 7 3, hardwareAddress 5 2, identifier,
    called, constant "True", constant "False", constant "None", ellipsis, imaginary, number, path,
    anyQuoted, location]

def spans (s : List Char) : List Span :=
  [tag, attributeValue, bracket, value].flatMap fun p =>
    (p.marks s).map fun (start, stop) => ⟨start, stop, none⟩

end Highlight

/-- The text with its highlights, which come before its own spans. -/
def StyledText.highlighted (t : StyledText) : StyledText :=
  { t with spans := Highlight.spans t.text ++ t.spans }

end BindingIndex.Console
