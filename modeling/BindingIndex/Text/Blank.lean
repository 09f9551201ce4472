/-!
# White space and line boundaries

Two overlapping classes of characters: those that are stripped around a text and those that end a
line. Some are in both; U+001F and U+00A0 are white space only, a byte order mark is neither.

* `Text.isBlank`, `Text.isLineBoundary`: the classes.
* `Text.trim`: a text without the white space around it.
* `Text.unifyNewlines`: CR LF and a lone CR become LF.
* `Text.pieces`: a text split at every line boundary.
-/

namespace BindingIndex.Text

/-- Is the character Unicode white space? -/
def isBlank (c : Char) : Bool :=
  let n := c.toNat
  (0x09 ≤ n && n ≤ 0x0D) || (0x1C ≤ n && n ≤ 0x20) || n == 0x85 || n == 0xA0 || n == 0x1680 ||
    (0x2000 ≤ n && n ≤ 0x200A) || n == 0x2028 || n == 0x2029 || n == 0x202F || n == 0x205F ||
    n == 0x3000

/-- Does the character end a line? -/
def isLineBoundary (c : Char) : Bool :=
  let n := c.toNat
  (0x0A ≤ n && n ≤ 0x0D) || (0x1C ≤ n && n ≤ 0x1E) || n == 0x85 || n == 0x2028 || n == 0x2029

def trimLeft (s : List Char) : List Char := s.dropWhile isBlank

def trimRight (s : List Char) : List Char := (trimLeft s.reverse).reverse

def trim (s : List Char) : List Char := trimRight (trimLeft s)

def unifyNewlines : List Char → List Char
  | [] => []
  | '\r' :: '\n' :: rest => '\n' :: unifyNewlines rest
  | c :: rest => (if c = '\r' then '\n' else c) :: unifyNewlines rest

def pieces (s : List Char) : List (List Char) := s.splitOnP isLineBoundary

/-- An ASCII letter in lower case, any other character as it is. -/
def lowerAscii (c : Char) : Char :=
  if 'A' ≤ c ∧ c ≤ 'Z' then Char.ofNat (c.toNat + 32) else c

end BindingIndex.Text
