import BindingIndex.Text.Digits
import BindingIndex.Text.Utf8
import BindingIndex.Yaml.Scalar

/-!
# Tokens

A document as a sequence of tokens. Indentation and keys show as tokens of their own: a key is only
known as one at its colon, so its token is put in front of what was read since. Where a document is
at fault, the tokens in front of the fault count as long as no key token can come before them.

* `Token`, `Directive`: the tokens.
* `Scanner`: the state between two tokens: indentation, flow level and the places where a key may
  have started.
* `Tokens`, `Tokens.ofText`: the tokens of a text, up to its first fault.
-/

namespace BindingIndex.Yaml

/-- A line that starts with a percent sign. -/
inductive Directive where
  | version (major : Nat)
  | tag (handle shorthand : String)
  | other
  deriving DecidableEq, Repr

inductive Token where
  | directive (d : Directive)
  | documentStart
  | documentEnd
  | streamEnd
  | blockSequenceStart
  | blockMappingStart
  | blockEnd
  | flowSequenceStart
  | flowSequenceEnd
  | flowMappingStart
  | flowMappingEnd
  | blockEntry
  | flowEntry
  | key
  | value
  | alias (name : String)
  | anchor (name : String)
  | tag (handle : Option String) (suffix : String)
  | scalar (text : Text) (plain : Bool)
  deriving DecidableEq, Repr

/-- A place where a key may have started: the number of its first token, and where it stands. A
required one has to turn out to be a key. -/
structure KeyPlace where
  token : Nat
  required : Bool
  index : Nat
  line : Nat
  column : Nat
  deriving Repr

structure Scanner where
  cursor : Cursor
  tokens : Array Token
  flow : Nat
  keyAllowed : Bool
  indent : Int
  outer : List Int
  keys : List (Nat × KeyPlace)

namespace Scanner

/-- The longest key that stands before a colon on one line. -/
def maxKey : Nat := 1024

def start (c : Cursor) : Scanner := ⟨c, #[], 0, true, -1, [], []⟩

def scan {α : Type} (s : Scanner) (step : Scan α) : Except Fault (α × Scanner) := do
  let (a, c) ← step.run s.cursor
  return (a, { s with cursor := c })

def push (s : Scanner) (t : Token) : Scanner := { s with tokens := s.tokens.push t }

/-- Put a token in front of the `i`-th one. -/
def insert (s : Scanner) (i : Nat) (t : Token) : Scanner :=
  { s with tokens := s.tokens.extract 0 i ++ #[t] ++ s.tokens.extract i s.tokens.size }

/-- Append a token and consume the `n` characters it is written with. -/
def take (s : Scanner) (n : Nat) (t : Token) : Except Fault Scanner :=
  (s.cursor.moved n).map fun c => { s.push t with cursor := c }

def allowKey (s : Scanner) (b : Bool) : Scanner := { s with keyAllowed := b }

/-! ## Keys and indentation -/

/-- Forget the places that can be no key any more, since keys stand on one line and are short. -/
def dropStale (s : Scanner) : Except Fault Scanner :=
  let stale := fun (k : KeyPlace) =>
    k.line != s.cursor.line || maxKey < s.cursor.index - k.index
  if s.keys.any fun (_, k) => stale k && k.required then .error .malformed
  else .ok { s with keys := s.keys.filter fun (_, k) => !stale k }

def keyHere (s : Scanner) : Option KeyPlace := (s.keys.find? (·.1 == s.flow)).map (·.2)

def forgetKey (s : Scanner) : Scanner := { s with keys := s.keys.filter (·.1 != s.flow) }

/-- The same where the place can be no key: an error if it was required. -/
def dropKey (s : Scanner) : Except Fault Scanner :=
  match s.keyHere with
  | some k => if k.required then .error .malformed else .ok s.forgetKey
  | none => .ok s

/-- Remember that a key may start with the next token. -/
def saveKey (s : Scanner) : Except Fault Scanner :=
  if s.keyAllowed then do
    let s ← s.dropKey
    let c := s.cursor
    let required := s.flow == 0 && s.indent == (c.column : Int)
    let key := ⟨s.tokens.size, required, c.index, c.line, c.column⟩
    return { s with keys := (s.flow, key) :: s.keys }
  else .ok s

/-- Close the blocks that are indented deeper than a column. -/
def closeBlocks (column : Int) : List Int → Scanner → Scanner
  | [], s => s
  | o :: os, s =>
    if column < s.indent then
      closeBlocks column os { s.push .blockEnd with indent := o, outer := os }
    else s

/-- Close blocks down to a column, except inside a flow collection. -/
def unwind (s : Scanner) (column : Int) : Scanner :=
  if s.flow != 0 then s else closeBlocks column s.outer s

/-- Open a block at a column unless one is open there. -/
def indentTo (s : Scanner) (column : Nat) : Scanner × Bool :=
  if s.indent < (column : Int) then
    ({ s with outer := s.indent :: s.outer, indent := column }, true)
  else (s, false)

def openBlock (s : Scanner) (t : Token) : Scanner :=
  match s.indentTo s.cursor.column with
  | (s, true) => s.push t
  | (s, false) => s

/-! ## Between tokens -/

/-- Skip spaces, comments and line breaks; a new line in a block allows a key. -/
def skipBlank : Nat → Scanner → Except Fault Scanner
  | 0, s => .ok s
  | fuel + 1, s => do
    let ((), s) ← s.scan do Scan.spaces; Scan.comment
    if isBreak s.cursor.peek then
      let (_, s) ← s.scan Scan.lineBreak
      skipBlank fuel (if s.flow == 0 then s.allowKey true else s)
    else return s

/-- Skip to the next token; a byte order mark at the very start is skipped too. -/
def toNext (s : Scanner) : Except Fault Scanner := do
  let c ←
    if s.cursor.index == 0 && s.cursor.peek == '\ufeff' then s.cursor.moved 1 else pure s.cursor
  skipBlank (c.size + 1) { s with cursor := c }

/-! ## Directives, anchors and tags -/

def versionNumber : Scan Nat := do
  Scan.expect Char.isDigit
  let n := (← get).run Char.isDigit
  discard (Scan.ahead n)
  if Text.maxDigits < n then throw (.tooManyDigits n)
  return (← Scan.take n).foldl (fun n c => n * 10 + digitValue c) 0

/-- A tag handle: an exclamation mark, or a name between two. -/
def tagHandle : Scan String := do
  Scan.expect (· == '!')
  if (← Scan.ahead 1) == ' ' then
    Scan.skip 1
    return "!"
  let n := (((← get).rest.drop 1).takeWhile isNameChar).length
  if (← Scan.ahead (n + 1)) != '!' then Scan.reject
  return String.ofList (← Scan.take (n + 2))

def isTagChar (c : Char) : Bool :=
  isNameChar c || [';', '/', '?', ':', '@', '&', '=', '+', '$', ',', '.', '!', '~', '*', '\'', '(',
    ')', '[', ']'].contains c

/-- The bytes of a run of percent escapes. -/
def percentBytes : Nat → Scan (List UInt8)
  | 0 => return []
  | fuel + 1 => do
    if (← Scan.peek) == '%' then
      let a ← Scan.ahead 1
      if !isHexDigit a then Scan.reject
      let b ← Scan.ahead 2
      if !isHexDigit b then Scan.reject
      Scan.skip 3
      return UInt8.ofNat (digitValue a * 16 + digitValue b) :: (← percentBytes fuel)
    else return []

def tagText : Nat → List Char → Scan (List Char)
  | 0, text => return text
  | fuel + 1, text => do
    let text := text ++ (← Scan.takeRun isTagChar)
    if (← Scan.peek) == '%' then
      match Text.Utf8.decode (← percentBytes (← Scan.fuel)) with
      | .ok more => tagText fuel (text ++ more)
      | .error _ => Scan.reject
    else return text

def tagUri : Scan String := do
  let c ← get
  let text ← tagText (← Scan.fuel) []
  if (← get).index == c.index then Scan.reject
  return String.ofList text

def directive : Scan Directive := do
  Scan.skip 1
  let name ← Scan.takeRun isNameChar
  if name == [] then Scan.reject
  Scan.expect isSpaceOrEnd
  let d ← match String.ofList name with
    | "YAML" => do
      Scan.spaces
      let major ← versionNumber
      Scan.expect (· == '.')
      Scan.skip 1
      discard versionNumber
      Scan.expect isSpaceOrEnd
      pure (.version major)
    | "TAG" => do
      Scan.spaces
      let handle ← tagHandle
      Scan.expect (· == ' ')
      Scan.spaces
      let shorthand ← tagUri
      Scan.expect isSpaceOrEnd
      pure (.tag handle shorthand)
    | _ => do
      discard (Scan.takeRun (!isBreakOrEnd ·))
      pure .other
  Scan.restOfLine
  return d

/-- May the character follow an anchor or alias? -/
def endsAnchor (c : Char) : Bool :=
  isBlankOrEnd c || ['?', ':', ',', ']', '\x7d', '%', '@', '\x60'].contains c

def anchorName : Scan String := do
  Scan.skip 1
  let name ← Scan.takeRun isNameChar
  if name == [] then Scan.reject
  Scan.expect endsAnchor
  return String.ofList name

/-- Does an exclamation mark follow this one before the next space or line break? -/
def hasHandle : Scan Bool := do
  let n := (((← get).rest.drop 1).takeWhile fun c => c != '!' && !isSpaceOrEnd c).length
  return (← Scan.ahead (n + 1)) == '!'

def nodeTag : Scan Token := do
  let next ← Scan.ahead 1
  let t ← do
    if next == '<' then do
      Scan.skip 2
      let uri ← tagUri
      Scan.expect (· == '>')
      Scan.skip 1
      pure (Token.tag none uri)
    else if isBlankOrEnd next then do
      Scan.skip 1
      pure (Token.tag none "!")
    else if ← hasHandle then do
      let handle ← tagHandle
      pure (Token.tag (some handle) (← tagUri))
    else do
      Scan.skip 1
      pure (Token.tag (some "!") (← tagUri))
  Scan.expect isSpaceOrEnd
  return t

/-! ## One token -/

/-- A token that may be or start a key, after which no key may start. -/
def keyed (s : Scanner) (step : Scan Token) : Except Fault Scanner := do
  let s ← s.saveKey
  let (t, s) ← (s.allowKey false).scan step
  return s.push t

/-- A token that ends all blocks: a directive or a document marker. -/
def atMargin (s : Scanner) : Except Fault Scanner := do
  let s ← (s.unwind (-1)).dropKey
  return s.allowKey false

def openFlow (s : Scanner) (t : Token) : Except Fault Scanner := do
  let s ← s.saveKey
  ({ s with flow := s.flow + 1 }.allowKey true).take 1 t

def closeFlow (s : Scanner) (t : Token) : Except Fault Scanner := do
  let s ← s.dropKey
  ({ s with flow := s.flow - 1 }.allowKey false).take 1 t

def blockEntry (s : Scanner) : Except Fault Scanner := do
  if s.flow == 0 && !s.keyAllowed then throw .malformed
  let s := if s.flow == 0 then s.openBlock .blockSequenceStart else s
  let s ← (s.allowKey true).dropKey
  s.take 1 .blockEntry

def explicitKey (s : Scanner) : Except Fault Scanner := do
  if s.flow == 0 && !s.keyAllowed then throw .malformed
  let s := if s.flow == 0 then s.openBlock .blockMappingStart else s
  let s ← (s.allowKey (s.flow == 0)).dropKey
  s.take 1 .key

/-- A colon before a value: what stands before it at the place of a key is one. -/
def valueMark (s : Scanner) : Except Fault Scanner := do
  match s.keyHere with
  | some k =>
    -- only now it is known that a key came before
    let s := s.forgetKey.insert k.token .key
    let s := if s.flow == 0 then
        match s.indentTo k.column with
        | (s, true) => s.insert k.token .blockMappingStart
        | (s, false) => s
      else s
    (s.allowKey false).take 1 .value
  | none =>
    if s.flow == 0 && !s.keyAllowed then throw .malformed
    let s := if s.flow == 0 then s.openBlock .blockMappingStart else s
    let s ← (s.allowKey (s.flow == 0)).dropKey
    s.take 1 .value

/-- A block scalar, after which a key may start. -/
def blockScalar (s : Scanner) (folded : Bool) : Except Fault Scanner := do
  let s ← (s.allowKey true).dropKey
  let (text, s) ← s.scan (Scalar.block folded s.indent)
  return s.push (.scalar (.ofChars text) false)

/-- A plain scalar; a key may start after it if it ends at the start of a line. -/
def plainScalar (s : Scanner) : Except Fault Scanner := do
  let s ← s.saveKey
  let ((text, newLine), s) ← s.scan (Scalar.plain (s.flow != 0) s.indent)
  return (s.push (.scalar (.ofChars text) true)).allowKey newLine

/-- What a plain scalar does not start with unless something else follows. -/
def indicators : List Char :=
  ['-', '?', ':', ',', '[', ']', '\x7b', '\x7d', '#', '&', '*', '!', '|', '>', '\'', '"', '%', '@',
    '\x60']

def startsPlain (s : Scanner) : Except Fault Bool := do
  let c := s.cursor.peek
  if !isBlankOrEnd c && !indicators.contains c then return true
  let next ← s.cursor.ahead 1
  return !isBlankOrEnd next && (c == '-' || (s.flow == 0 && (c == '?' || c == ':')))

/-- Does a document marker stand at the cursor, at the start of a line? -/
def atMarker (s : Scanner) : Except Fault Bool :=
  if s.cursor.column == 0 && (s.cursor.peek == '-' || s.cursor.peek == '.') then s.cursor.atMarker
  else .ok false

/-- Does a blank follow the character at the cursor, or does a flow collection make up for it? -/
def isMark (s : Scanner) (inFlow : Bool) : Except Fault Bool :=
  if inFlow && s.flow != 0 then .ok true else (s.cursor.ahead 1).map isBlankOrEnd

def token (s : Scanner) : Except Fault (Scanner × Bool) := do
  let c := s.cursor.peek
  if c == eof then
    let s ← s.atMargin
    return ({ s with keys := [] }.push .streamEnd, true)
  let s ← do
    if c == '%' && s.cursor.column == 0 then do
      let (d, s) ← (← s.atMargin).scan directive
      pure (s.push (.directive d))
    else if ← s.atMarker then do
      (← s.atMargin).take 3 (if c == '-' then .documentStart else .documentEnd)
    else if c == '[' then s.openFlow .flowSequenceStart
    else if c == '\x7b' then s.openFlow .flowMappingStart
    else if c == ']' then s.closeFlow .flowSequenceEnd
    else if c == '\x7d' then s.closeFlow .flowMappingEnd
    else if c == ',' then do (← (s.allowKey true).dropKey).take 1 .flowEntry
    else if ← pure (c == '-') <&&> s.isMark false then s.blockEntry
    else if ← pure (c == '?') <&&> s.isMark true then s.explicitKey
    else if ← pure (c == ':') <&&> s.isMark true then s.valueMark
    else if c == '*' then s.keyed (.alias <$> anchorName)
    else if c == '&' then s.keyed (.anchor <$> anchorName)
    else if c == '!' then s.keyed nodeTag
    else if c == '|' && s.flow == 0 then s.blockScalar false
    else if c == '>' && s.flow == 0 then s.blockScalar true
    else if c == '\'' || c == '"' then
      s.keyed do return .scalar (← Scalar.quoted (c == '"')) false
    else if ← s.startsPlain then s.plainScalar
    else throw .malformed
  return (s, false)

/-- Read the next token, with all that may come before it; `true` after the last one. -/
def next (s : Scanner) : Except Fault (Scanner × Bool) := do
  let s ← (← s.toNext).dropStale
  let (s, ended) ← (s.unwind s.cursor.column).token
  if ended then return (s, true)
  return (← s.dropStale, false)

/-- The number of tokens that nothing can be put in front of any more. -/
def settled (s : Scanner) : Nat := s.keys.foldl (fun n (_, k) => min n k.token) s.tokens.size

end Scanner

structure Tokens where
  items : List Token
  fault : Option Fault

namespace Tokens

def finish : Nat → Scanner → Tokens
  | 0, s => ⟨s.tokens.toList, some .malformed⟩
  | fuel + 1, s =>
    match s.next with
    -- in front of the others a key token might still have come
    | .error f => ⟨s.tokens.toList.take s.settled, some f⟩
    | .ok (s, true) => ⟨s.tokens.toList, none⟩
    | .ok (s, false) => finish fuel s

def ofText (text : List Char) (beyond : Option Fault) : Tokens :=
  finish (text.length + 2) (.start (.start text beyond))

end Tokens

end BindingIndex.Yaml
