import BindingIndex.Yaml.Cursor

/-!
# Scalar texts

The three ways to write a scalar: in a block below its header, between quotes and plain. Each
function starts at the scalar's first character and gives its text with line breaks folded.

* `Scalar.block`: literal and folded blocks.
* `Scalar.quoted`: single and double quotes.
* `Scalar.plain`: plain scalars, in block and in flow context.
-/

namespace BindingIndex.Yaml.Scalar

open Scan

/-! ## Blocks -/

/-- What becomes of the line breaks at the end of a block. -/
inductive Chomping where
  | strip
  | clip
  | keep
  deriving DecidableEq, Repr

def chomping? (c : Char) : Option Chomping :=
  if c == '+' then some .keep else if c == '-' then some .strip else none

def chompingIndicator : Scan (Option Chomping) := do
  match chomping? (← peek) with
  | some x => skip 1; return some x
  | none => return none

/-- Consume an indentation indicator: one digit but zero. -/
def widthIndicator : Scan (Option Nat) := do
  let c ← peek
  if c.isDigit then
    if c == '0' then reject
    skip 1
    return some (digitValue c)
  else return none

/-- The indicators of a block header, in either order. -/
def indicators : Scan (Chomping × Option Nat) := do
  match ← chompingIndicator with
  | some x =>
    let w ← widthIndicator
    expect isSpaceOrEnd
    return (x, w)
  | none =>
    match ← widthIndicator with
    | some w =>
      let x ← chompingIndicator
      expect isSpaceOrEnd
      return (x.getD .clip, some w)
    | none =>
      expect isSpaceOrEnd
      return (.clip, none)

/-- Skip the blank lines before a block whose indentation is not given; the line breaks and the
greatest column that was reached. -/
def leading : Nat → List Char → Nat → Scan (List Char × Nat)
  | 0, breaks, deepest => return (breaks, deepest)
  | fuel + 1, breaks, deepest => do
    let c ← get
    if c.peek == ' ' then
      skip 1
      leading fuel breaks (max deepest (c.column + 1))
    else if isBreak c.peek then
      leading fuel (breaks ++ (← lineBreak)) deepest
    else return (breaks, deepest)

/-- Skip at most the spaces of an indentation. -/
def indentation (indent : Nat) : Scan Unit := do
  let c ← get
  skip (min (c.run (· == ' ')) (indent - c.column))

/-- Skip blank lines inside a block; the line breaks. -/
def blankLines (indent : Nat) : Nat → List Char → Scan (List Char)
  | 0, breaks => return breaks
  | fuel + 1, breaks => do
    indentation indent
    if isBreak (← peek) then blankLines indent fuel (breaks ++ (← lineBreak))
    else return breaks

/-- The lines of a block from the first one that is not blank; `breaks` are the line breaks before
it. In a folded block a line feed between two lines that start with no blank becomes a space. -/
def blockLines (folded : Bool) (chomp : Chomping) (indent : Nat) :
    Nat → List Char → List Char → List Char → Scan (List Char)
  | 0, text, _, _ => return text
  | fuel + 1, text, breaks, last => do
    let c ← get
    if c.column == indent && c.peek != eof then
      let flush := !isInlineBlank c.peek
      let content ← takeRun (!isBreakOrEnd ·)
      let text := text ++ breaks ++ content
      let last ← lineBreak
      let breaks ← blankLines indent (← Scan.fuel) []
      let c ← get
      if c.column == indent && c.peek != eof then
        let joint :=
          if folded && last == ['\n'] && flush && !isInlineBlank c.peek then
            if breaks == [] then [' '] else []
          else last
        blockLines folded chomp indent fuel (text ++ joint) breaks last
      else return finish text breaks last
    else return finish text breaks last
where
  /-- The text with the line breaks that its chomping keeps. -/
  finish (text breaks last : List Char) : List Char :=
    match chomp with
    | .strip => text
    | .clip => text ++ last
    | .keep => text ++ last ++ breaks

def block (folded : Bool) (context : Int) : Scan (List Char) := do
  skip 1
  let (chomp, width) ← indicators
  restOfLine
  let least := max 1 (context + 1).toNat
  let fuel ← Scan.fuel
  match width with
  | none =>
    let (breaks, deepest) ← leading fuel [] 0
    blockLines folded chomp (max least deepest) fuel [] breaks []
  | some w =>
    let indent := least + w - 1
    let breaks ← blankLines indent fuel []
    blockLines folded chomp indent fuel [] breaks []

/-! ## Quotes -/

/-- The character that a one-letter escape stands for. -/
def escape? : Char → Option Char
  | '0' => some '\x00' | 'a' => some '\x07' | 'b' => some '\x08' | 't' => some '\t'
  | '\t' => some '\t' | 'n' => some '\n' | 'v' => some '\x0b' | 'f' => some '\x0c'
  | 'r' => some '\r' | 'e' => some '\x1b' | ' ' => some ' ' | '"' => some '"'
  | '\\' => some '\\' | '/' => some '/' | 'N' => some '\x85' | '_' => some '\xa0'
  | 'L' => some '\u2028' | 'P' => some '\u2029' | _ => none

def escapeWidth? : Char → Option Nat
  | 'x' => some 2 | 'u' => some 4 | 'U' => some 8 | _ => none

/-- Skip line breaks and the blanks after them inside quotes; a document marker may not stand at
the start of a line. -/
def quotedBreaks : Nat → List Char → Scan (List Char)
  | 0, breaks => return breaks
  | fuel + 1, breaks => do
    if ← atMarker then reject
    discard (takeRun isInlineBlank)
    if isBreak (← peek) then quotedBreaks fuel (breaks ++ (← lineBreak))
    else return breaks

/-- The hexadecimal number of an escape, of exactly `width` digits. -/
def escapeNumber (width : Nat) : Scan Nat := do
  let digits := (← get).rest.take width
  if !digits.all isHexDigit then reject
  -- fewer are at hand: the document ends here, or breaks off with its fault
  if !isHexDigit (← ahead (width - 1)) then reject
  let n := digits.foldl (fun n d => n * 16 + digitValue d) 0
  if 0x110000 ≤ n then throw (.codePoint n)
  skip width
  return n

/-- The escape after a backslash. A numbered one may stand for half of a surrogate pair. -/
def escapeSequence : Scan Text := do
  let ch ← peek
  match escape? ch, escapeWidth? ch with
  | some x, _ => skip 1; return [↑x]
  | none, some width =>
    skip 1
    return [.ofNat (← escapeNumber width)]
  | none, none =>
    if isBreak ch then
      discard lineBreak
      return .ofChars (← quotedBreaks (← fuel) [])
    else reject

def endsQuotedRun (c : Char) : Bool :=
  c == '\'' || c == '"' || c == '\\' || isBlankOrEnd c

def quotedRun (double : Bool) : Nat → Text → Scan Text
  | 0, text => return text
  | fuel + 1, text => do
    let text := text ++ .ofChars (← takeRun (!endsQuotedRun ·))
    let ch ← peek
    if double then
      if ch == '\'' then
        skip 1
        quotedRun double fuel (text ++ [↑ch])
      else if ch == '\\' then
        skip 1
        quotedRun double fuel (text ++ (← escapeSequence))
      else return text
    else if ch == '\'' then
      if (← ahead 1) == '\'' then
        skip 2
        quotedRun double fuel (text ++ [↑ch])
      else return text
    else if ch == '"' || ch == '\\' then
      skip 1
      quotedRun double fuel (text ++ [↑ch])
    else return text

/-- The blanks inside quotes: as they are within a line, folded at its end. -/
def quotedBlanks : Scan (List Char) := do
  let blanks ← takeRun isInlineBlank
  let ch ← peek
  if ch == eof then reject
  else if isBreak ch then
    let first ← lineBreak
    let breaks ← quotedBreaks (← fuel) []
    if first != ['\n'] then return first ++ breaks
    else if breaks == [] then return [' ']
    else return breaks
  else return blanks

def quotedText (double : Bool) (quote : Char) : Nat → Text → Scan Text
  | 0, _ => reject
  | fuel + 1, text => do
    if (← peek) == quote then
      skip 1
      return text
    let blanks ← quotedBlanks
    let more ← quotedRun double (← Scan.fuel) []
    quotedText double quote fuel (text ++ .ofChars blanks ++ more)

def quoted (double : Bool) : Scan Text := do
  let quote ← peek
  skip 1
  let first ← quotedRun double (← fuel) []
  quotedText double quote (← fuel) first

/-! ## Plain scalars -/

/-- Does a colon before this character end a plain scalar? -/
def endsKey (inFlow : Bool) (c : Char) : Bool :=
  isBlankOrEnd c || (inFlow && (c == ',' || c == '[' || c == ']' || c == '\x7b' || c == '\x7d'))

/-- Does a character end plain text, wherever it stands? -/
def endsPlain (inFlow : Bool) (c : Char) : Bool :=
  isBlankOrEnd c ||
    (inFlow && (c == ',' || c == '?' || c == '[' || c == ']' || c == '\x7b' || c == '\x7d'))

def plainLength (inFlow : Bool) : List Char → Nat
  | [] => 0
  | c :: rest =>
    if endsPlain inFlow c || (c == ':' && endsKey inFlow (rest.headD eof)) then 0
    else plainLength inFlow rest + 1

/-- Skip blank lines after a line of a plain scalar; `none` if a document marker follows. -/
def plainBreaks : Nat → List Char → Scan (Option (List Char))
  | 0, breaks => return some breaks
  | fuel + 1, breaks => do
    let c ← get
    if c.peek == ' ' then
      skip 1
      plainBreaks fuel breaks
    else if isBreak c.peek then
      let breaks := breaks ++ (← lineBreak)
      if ← atMarker then return none
      plainBreaks fuel breaks
    else return some breaks

/-- The spaces and line breaks after a run of plain characters, folded, and whether they reach a new
line. -/
def plainGap : Scan (List Char × Bool) := do
  let blanks ← takeRun (· == ' ')
  if isBreak (← peek) then
    let first ← lineBreak
    if ← atMarker then return ([], true)
    match ← plainBreaks (← fuel) [] with
    | none => return ([], true)
    | some breaks =>
      if first != ['\n'] then return (first ++ breaks, true)
      else if breaks == [] then return ([' '], true)
      else return (breaks, true)
  else return (blanks, false)

/-- The runs of a plain scalar; `gap` is what joins the next one to the text. -/
def plainRuns (inFlow : Bool) (indent : Int) :
    Nat → List Char → List Char → Bool → Scan (List Char × Bool)
  | 0, text, _, newLine => return (text, newLine)
  | fuel + 1, text, gap, newLine => do
    let c ← get
    if c.peek == '#' then return (text, newLine)
    let n := plainLength inFlow c.rest
    if (← ahead n) == ':' then discard (ahead (n + 1))
    if n == 0 then return (text, newLine)
    let text := text ++ gap ++ (← take n)
    let (gap, newLine) ← plainGap
    let c ← get
    if gap == [] || c.peek == '#' || (!inFlow && (c.column : Int) < indent) then
      return (text, newLine)
    plainRuns inFlow indent fuel text gap newLine

/-- A plain scalar in a context of the given indentation, and whether it ends at the start of a
line. -/
def plain (inFlow : Bool) (context : Int) : Scan (List Char × Bool) := do
  plainRuns inFlow (context + 1) (← fuel) [] [] false

end BindingIndex.Yaml.Scalar
