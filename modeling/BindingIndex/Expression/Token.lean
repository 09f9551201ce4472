import BindingIndex.Expression.Fault
import BindingIndex.Text.Blank
import BindingIndex.Text.Identifier

/-!
# Tokens of expressions

A text is cut into names, numbers, text literals and signs. A line ends a token sequence only
outside of brackets. What cannot be cut ends the tokens with its fault.

* `Expression.Token`: a token with its line and the number of brackets that are open behind it.
* `Expression.afterNumber`, `Expression.afterLiteral`: what follows a number or a text literal.
* `Expression.tokens`: the tokens of a text; the last one is `stop` or a fault.
-/

namespace BindingIndex.Expression

inductive TokenKind where
  | name (s : String)
  | word (s : String)
  | number (s : List Char)
  /-- A text literal with its quotes and what stands before them. -/
  | literal (s : List Char)
  | sign (s : String)
  | newline
  | indent
  | stop
  | fault (f : Fault)
  deriving DecidableEq, Repr

/-- Has the scanner to look behind a token to find its end? A text literal ends with its quotes, but
two quotes may be the start of three. -/
def TokenKind.looksBehind : TokenKind → Bool
  | literal s => (s.dropWhile Char.isAlpha).length = 2
  | sign s => s.length < 3
  | _ => true

/-- A token, the line it starts in, and the brackets that are open behind it. -/
structure Token where
  kind : TokenKind
  line : Nat
  /-- The open brackets with their lines, the innermost first. -/
  brackets : List (Char × Nat)
  /-- Has the scanner come to the end of the text when it has found the end of the token? -/
  endsText : Bool
  deriving DecidableEq, Repr

def Token.depth (t : Token) : Nat := t.brackets.length

def reservedWords : List String :=
  ["False", "None", "True", "and", "as", "assert", "async", "await", "break", "class", "continue",
    "def", "del", "elif", "else", "except", "finally", "for", "from", "global", "if", "import",
    "in", "is", "lambda", "nonlocal", "not", "or", "pass", "raise", "return", "try", "while",
    "with", "yield"]

def nameKind (s : List Char) : TokenKind :=
  let name := String.ofList s
  if reservedWords.contains name then .word name else .name name

/-! ## Names -/

/-- May a name start with the character? Beyond ASCII that is found out when the name ends. -/
def mayStartName (c : Char) : Bool := c.isAlpha || c = '_' || 0x80 ≤ c.toNat

def mayGoOn (c : Char) : Bool := mayStartName c || c.isDigit

/-- The token of a name, unless one of its characters stands in no name. -/
def nameToken (s : List Char) : TokenKind :=
  match Text.afterIdentifier s with
  | [] => nameKind s
  | c :: _ => .fault (.character c)

/-! ## Numbers -/

def joinedWords : List (List Char) :=
  ["and", "else", "for", "or", "not"].map String.toList

/-- Does a word start here that may follow a number at once? -/
def startsJoinedWord (s : List Char) : Bool :=
  (joinedWords.any fun w => w.isPrefixOf s && !(s.drop w.length).head?.any mayGoOn) ||
    [['i', 'f'], ['i', 'n'], ['i', 's']].any fun w => w.isPrefixOf s

/-- The end of a number of a kind: no ASCII character that may stand in a name follows it, unless it
starts one of a few words. -/
def numberEnd (kind : String) (rest : List Char) : Except Fault (List Char) :=
  if rest.head?.any (fun c => mayGoOn c && c.toNat < 0x80) && !startsJoinedWord rest then
    .error (.number kind)
  else .ok rest

def decimalKind : String := "decimal"

/-- What follows more digits of a base, with an underscore between two of them at most. -/
def afterMoreDigits (isDigit : Char → Bool) (kind : String) : List Char → Except Fault (List Char)
  | '_' :: c :: rest =>
    if isDigit c then afterMoreDigits isDigit kind rest
    else if c.isDigit then .error (.digit c kind)
    else .error (.number kind)
  | ['_'] => .error (.number kind)
  | c :: rest =>
    if isDigit c then afterMoreDigits isDigit kind rest
    else if c.isDigit then .error (.digit c kind)
    else numberEnd kind (c :: rest)
  | [] => .ok []

/-- What follows the digits of a base, of which there is one at least. An underscore may stand
before them. -/
def afterBase (isDigit : Char → Bool) (kind : String) (s : List Char) : Except Fault (List Char) :=
  match if s.head? = some '_' then s.drop 1 else s with
  | [] => .error (.number kind)
  -- as if the underscore stood there in any case: the first digit is checked like the others
  | c :: rest => afterMoreDigits isDigit kind ('_' :: c :: rest)

def isHexDigit (c : Char) : Bool :=
  c.isDigit || ('a' ≤ c && c ≤ 'f') || ('A' ≤ c && c ≤ 'F')

def imaginaryEnd : List Char → Except Fault (List Char)
  | 'j' :: rest => numberEnd "imaginary" rest
  | 'J' :: rest => numberEnd "imaginary" rest
  | rest => numberEnd decimalKind rest

/-- What follows digits in base ten, with an underscore between two of them at most. -/
def afterDecimals : List Char → Except Fault (List Char)
  | '_' :: c :: rest => if c.isDigit then afterDecimals rest else .error (.number decimalKind)
  | ['_'] => .error (.number decimalKind)
  | c :: rest => if c.isDigit then afterDecimals rest else .ok (c :: rest)
  | [] => .ok []

/-- What follows the exponent of a number, if it has one. A letter that starts a word is none. -/
def afterExponent (s : List Char) : Except Fault (List Char) :=
  match s with
  | e :: rest =>
    if e = 'e' ∨ e = 'E' then
      match rest with
      | sign :: digits =>
        if sign = '+' ∨ sign = '-' then
          if digits.head?.any Char.isDigit then do imaginaryEnd (← afterDecimals digits)
          else .error (.number decimalKind)
        else if sign.isDigit then do imaginaryEnd (← afterDecimals rest)
        else numberEnd decimalKind s
      | [] => numberEnd decimalKind s
    else imaginaryEnd s
  | [] => .ok []

/-- What follows the fraction of a number, behind its point. -/
def afterFraction (s : List Char) : Except Fault (List Char) :=
  if s.head?.any Char.isDigit then do afterExponent (← afterDecimals s) else afterExponent s

/-- What follows a number whose digits before a point have been read. -/
def afterWhole : List Char → Except Fault (List Char)
  | '.' :: rest => afterFraction rest
  | rest => afterExponent rest

/-- What follows the zeros that a number starts with, and the underscores between them. -/
def afterZeros : List Char → Except Fault (List Char)
  | '_' :: c :: rest =>
    if c = '0' then afterZeros rest
    else if c.isDigit then .ok (c :: rest)
    else .error (.number decimalKind)
  | ['_'] => .error (.number decimalKind)
  | '0' :: rest => afterZeros rest
  | rest => .ok rest

/-- What follows a number that starts with a zero. Only zeros may follow it, unless the number has a
point, an exponent or is imaginary. -/
def afterZero (s : List Char) : Except Fault (List Char) := do
  let rest ← afterZeros s
  if rest.head?.any Char.isDigit then
    match ← afterDecimals rest with
    | c :: rest =>
      if ['.', 'e', 'E', 'j', 'J'].contains c then afterWhole (c :: rest)
      else .error .leadingZeros
    | [] => .error .leadingZeros
  else afterWhole rest

/-- What follows a number whose first character is a digit or a point. -/
def afterNumber (s : List Char) : Except Fault (List Char) :=
  match s with
  | '.' :: rest => afterFraction rest
  | '0' :: c :: rest =>
    if c = 'x' ∨ c = 'X' then afterBase isHexDigit "hexadecimal" rest
    else if c = 'o' ∨ c = 'O' then afterBase (fun d => '0' ≤ d && d < '8') "octal" rest
    else if c = 'b' ∨ c = 'B' then afterBase (fun d => d = '0' || d = '1') "binary" rest
    else afterZero (c :: rest)
  | _ :: rest => do afterWhole (← afterDecimals rest)
  | [] => .ok []

/-! ## Text literals -/

/-- The letters that may stand before the quotes of a text literal. -/
def literalMarks : List String := ["", "b", "u", "r", "f", "br", "rb", "fr", "rf"]

/-- The quotes of a text literal and what follows, when one starts here. -/
def fromQuote? (s : List Char) : Option (List Char) :=
  let mark := s.takeWhile Char.isAlpha
  let rest := s.drop mark.length
  if literalMarks.contains (String.ofList (mark.map Text.lowerAscii)) &&
      rest.head?.any fun c => c = '"' || c = '\'' then some rest
  else none

/-- The line of what follows a line end; where nothing does, there is no other line. -/
def lineBehind (line : Nat) (rest : List Char) : Nat := if rest.isEmpty then line else line + 1

/-- What follows the end of a text literal whose opening quotes have been read, with the line it
ends in; `size` quotes end it, and `seen` of them have been read. -/
def afterQuotes (quote : Char) (size line seen : Nat) (s : List Char) :
    Except Fault (List Char × Nat) :=
  if seen = size then .ok (s, line)
  else
    match s with
    | [] => .error (.unterminated (size = 3) line)
    | '\\' :: '\n' :: rest => afterQuotes quote size (lineBehind line rest) 0 rest
    | '\\' :: _ :: rest => afterQuotes quote size line 0 rest
    | c :: rest =>
      if c = quote then afterQuotes quote size line (seen + 1) rest
      else if c = '\n' then
        if size = 1 then .error (.unterminated false line)
        else afterQuotes quote size (lineBehind line rest) 0 rest
      else afterQuotes quote size line 0 rest

/-- What follows a text literal that starts with a quote in a line, and the line it ends in. -/
def afterLiteral (line : Nat) : List Char → Except Fault (List Char × Nat)
  | q :: r :: s :: rest =>
    if q = r ∧ r = s then afterQuotes q 3 line 0 rest
    else if q = r then .ok (s :: rest, line)
    else afterQuotes q 1 line 0 (r :: s :: rest)
  | [q, r] => if q = r then .ok ([], line) else afterQuotes q 1 line 0 [r]
  | [_] => .error (.unterminated false line)
  | [] => .ok ([], line)

/-! ## Scanning -/

structure Scanner where
  line : Nat
  brackets : List (Char × Nat)
  /-- The indentations of the lines around, with tabs counted as up to eight columns and as one. -/
  indents : List (Nat × Nat)
  deriving DecidableEq, Repr

namespace Scanner

/-- The fault of a text that ends here. -/
def ended (sc : Scanner) : Fault := sc.brackets.head?.elim .ended fun b => .unclosed b.1

def start : Scanner := ⟨1, [], []⟩

def token (sc : Scanner) (kind : TokenKind) : Token := ⟨kind, sc.line, sc.brackets, false⟩

def nextLine (sc : Scanner) : Scanner := { sc with line := sc.line + 1 }

end Scanner

def maxDepth : Nat := 200

/-- The bracket that a closing one belongs to. -/
def openingOf (c : Char) : Char := if c = ')' then '(' else if c = ']' then '[' else '\x7b'

/-- The signs of more than one character, the longer ones first. -/
def longSigns : List String :=
  ["**=", "//=", "<<=", ">>=", "...", "!=", "%=", "&=", "**", "*=", "+=", "-=", "->", "//", "/=",
    ":=", "<<", "<=", "<>", "==", ">=", ">>", "@=", "^=", "|="]

def signToken (sc : Scanner) (c : Char) : TokenKind × Scanner :=
  let kind := TokenKind.sign (String.singleton c)
  if ['(', '[', '\x7b'].contains c then
    if maxDepth ≤ sc.brackets.length then (.fault .tooDeep, sc)
    else (kind, { sc with brackets := (c, sc.line) :: sc.brackets })
  else if [')', ']', '\x7d'].contains c then
    match sc.brackets with
    | [] => (.fault (.unmatched c), sc)
    | (opening, line) :: outer =>
      if opening = openingOf c then (kind, { sc with brackets := outer })
      else (.fault (.mismatched c opening (if line = sc.line then none else some line)), sc)
  else if Text.isPrintable c then (kind, sc)
  else (.fault (.character c), sc)

/-- The indentation of a line, in columns of both kinds, and the line without it. A backslash at the
end of a line keeps the indentation before it. -/
def indentation (sc : Scanner) (kept : Option (Nat × Nat)) (columns : Nat × Nat) :
    List Char → Except Fault (Scanner × (Nat × Nat) × List Char)
  | ' ' :: rest => indentation sc kept (columns.1 + 1, columns.2 + 1) rest
  | '\t' :: rest => indentation sc kept ((columns.1 / 8 + 1) * 8, columns.2 + 1) rest
  | '\x0c' :: rest => indentation sc kept (0, 0) rest
  | '\\' :: '\n' :: [] => .error sc.ended
  | '\\' :: '\n' :: rest =>
    let kept := if columns.1 = 0 then kept else kept.or (some (columns.1, columns.1))
    indentation sc.nextLine kept columns rest
  | '\\' :: _ => .error .continuation
  | rest => .ok (sc, kept.getD columns, rest)

/-- The scanner in a line with an indentation, and whether it goes deeper than the line before. -/
def indented (sc : Scanner) (columns : Nat × Nat) : Except Fault (Scanner × Bool) :=
  let current := sc.indents.head?.getD (0, 0)
  if current.1 < columns.1 then
    if columns.2 ≤ current.2 then .error .tabs
    else .ok ({ sc with indents := columns :: sc.indents }, true)
  else
    let indents := sc.indents.dropWhile fun i => columns.1 < i.1
    let current := indents.head?.getD (0, 0)
    if columns.1 ≠ current.1 then .error .dedent
    else if columns.2 ≠ current.2 then .error .tabs
    else .ok ({ sc with indents }, false)

/-- The first token of a text inside a line: what it is, where it leaves the scanner, and what
follows it. The text starts with no blank and no line end. -/
def firstToken (sc : Scanner) (s : List Char) : TokenKind × Scanner × List Char :=
  match s with
  | [] => (sc.brackets.head?.elim .stop fun b => .fault (.unclosed b.1), sc, [])
  | c :: rest =>
    match fromQuote? s with
    | some quotes =>
      match afterLiteral sc.line quotes with
      | .error f => (.fault f, sc, [])
      | .ok (after, line) => (.literal (s.take (s.length - after.length)), { sc with line }, after)
    | none =>
      if mayStartName c then
        (nameToken (s.takeWhile mayGoOn), sc, s.dropWhile mayGoOn)
      else if c.isDigit || (c = '.' && rest.head?.any Char.isDigit) then
        match afterNumber s with
        | .error f => (.fault f, sc, [])
        | .ok after => (.number (s.take (s.length - after.length)), sc, after)
      else
        match longSigns.find? fun sign => sign.toList.isPrefixOf s with
        | some sign => (.sign sign, sc, s.drop sign.length)
        | none =>
          let (kind, sc) := signToken sc c
          (kind, sc, rest)

def TokenKind.isLast : TokenKind → Bool
  | stop => true
  | fault _ => true
  | _ => false

mutual

/-- The tokens from the start of a line on. Lines with nothing but blanks and comments have none. -/
def lineTokens : Nat → Scanner → List Char → List Token
  | 0, sc, _ => [sc.token .stop]
  | fuel + 1, sc, s =>
    match indentation sc none (0, 0) s with
    | .error f => [sc.token (.fault f)]
    | .ok (sc, columns, s) =>
      if sc.brackets ≠ [] || s.head?.any fun c => c = '#' || c = '\n' then
        tokensFrom fuel sc true s
      else
        match indented sc columns with
        | .error f => [sc.token (.fault f)]
        | .ok (sc, true) => sc.token .indent :: tokensFrom fuel sc false s
        | .ok (sc, false) => tokensFrom fuel sc false s

/-- The tokens from inside a line on; `blank` tells that the line holds none so far that counts. -/
def tokensFrom : Nat → Scanner → Bool → List Char → List Token
  | 0, sc, _, _ => [sc.token .stop]
  | fuel + 1, sc, blank, s =>
    match s with
    | ' ' :: rest => tokensFrom fuel sc blank rest
    | '\t' :: rest => tokensFrom fuel sc blank rest
    | '\x0c' :: rest => tokensFrom fuel sc blank rest
    | '#' :: rest => tokensFrom fuel sc blank (rest.dropWhile (· ≠ '\n'))
    | '\n' :: rest =>
      if blank || sc.brackets ≠ [] then lineTokens fuel sc.nextLine rest
      else sc.token .newline :: lineTokens fuel sc.nextLine rest
    | '\\' :: '\n' :: [] => [sc.token (.fault sc.ended)]
    | '\\' :: '\n' :: rest => tokensFrom fuel sc.nextLine blank rest
    | '\\' :: _ => [sc.token (.fault .continuation)]
    | s =>
      let (kind, after, rest) := firstToken sc s
      let token : Token := ⟨kind, sc.line, after.brackets, rest.isEmpty && kind.looksBehind⟩
      if kind.isLast then [token] else token :: tokensFrom fuel after false rest

end

def tokens (s : List Char) : List Token :=
  if s.contains '\x00' then [Scanner.start.token (.fault .nullCharacter)]
  else
    let s := Text.unifyNewlines s
    -- a character takes one step, and the start of a line another
    lineTokens (2 * s.length + 2) .start s

end BindingIndex.Expression
