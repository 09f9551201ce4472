import BindingIndex.Text.Stream
import BindingIndex.Yaml.Unfold

/-!
# The value of a document

A document is read block by block, and what is wrong with the characters of a block is only known
once the block is reached. So a fault of the format further up comes before a character that may not
occur, or before bytes that are no text, unless they lie in the blocks that are read at once.

* `Input`: the characters that can be reached, and the fault behind them.
* `Yaml.read`: the value of a text; a text without a document is null.
* `Yaml.Fault.message`: the text of a fault that is no error of the format.
-/

namespace BindingIndex.Yaml

/-- May the character occur in a document? -/
def isDocumentChar (c : Char) : Bool :=
  let n := c.toNat
  n == 0x09 || n == 0x0A || n == 0x0D || (0x20 ≤ n && n ≤ 0x7E) || n == 0x85 ||
    (0xA0 ≤ n && n ≤ 0xFFFD) || 0x10000 ≤ n

structure Input where
  text : List Char
  fault : Option Fault
  deriving DecidableEq, Repr

namespace Input

/-- The number of characters that are read at once. -/
def atOnce : Nat := 2 * Text.Stream.blockSize

/-- The characters in front of the block in which the `n`-th one stands. -/
def blockStart (n : Nat) : Nat := n / Text.Stream.blockSize * Text.Stream.blockSize

def firstBad? (s : List Char) : Option Nat := s.findIdx? (!isDocumentChar ·)

/-- What can be reached of a stream. A block is read as a whole or not at all. -/
def ofStream (s : Text.Stream) : Except Fault Input :=
  let readable := match s.fault with
    | some _ => blockStart s.chars.length
    | none => s.chars.length
  let whole : Input := ⟨s.chars.take readable, s.fault.map .unreadable⟩
  match s.fault with
  | some f => if readable < atOnce then .error (.unreadable f) else reach whole
  | none => reach whole
where
  /-- What can be reached in front of a character that may not occur. -/
  reach (whole : Input) : Except Fault Input :=
    match firstBad? whole.text with
    | none => .ok whole
    | some n =>
      if n < atOnce then .error .malformed
      else .ok ⟨whole.text.take (blockStart n), some .malformed⟩

end Input

def read (s : Text.Stream) : Except Fault Value := do
  let input ← Input.ofStream s
  match ← Graph.ofTokens (.ofText input.text input.fault) with
  | (_, none) => return .null
  | (g, some root) =>
    let (contents, root) ← Contents.ofGraph g root
    return contents.value root

/-- Code points from here on do not even fit a word of 32 bits with a sign. -/
def wordLimit : Nat := 2147483648

def Fault.message : Fault → String
  | .malformed => "malformed document"
  | .unreadable f => f.message
  | .tooManyDigits count => Text.tooManyDigits count
  | .codePoint n =>
    if n < wordLimit then "chr() arg not in range(0x110000)"
    else "Python int too large to convert to C int"
  | .integer text base =>
    "invalid literal for int() with base " ++ toString base ++ ": " ++
      String.ofList ((Value.quotedText text).toList.take 200)
  | .float text => "could not convert string to float: " ++ Value.quotedText text
  | .hugeWorth => "int too large to convert to float"
  | .truth word => Value.quotedText word
  | .emptyNumber => "string index out of range"
  | .timestamp => "'NoneType' object has no attribute 'groupdict'"
  | .timestampMapping => "expected string or bytes-like object, got 'list'"
  | .endless => "maximum recursion depth exceeded"
  | .calendar complaint => complaint

end BindingIndex.Yaml
