import BindingIndex.Expression.Literal

/-!
# Formatted texts

A formatted text holds expressions in braces, each with a conversion and a format behind it if need
be. A format is a formatted text again. Doubled braces stand for themselves.

* `Formatted.plainPart`: the text before the next brace.
* `Formatted.expressionPart`: the text of an expression in braces.
* `Formatted.check`: whether a formatted text can be read.
-/

namespace BindingIndex.Expression.Formatted

/-! ## Plain parts -/

inductive PlainEnd where
  /-- A doubled brace, after which the text goes on. -/
  | doubled
  /-- A brace, or the end of the text. -/
  | stop
  deriving DecidableEq, Repr

/-- The characters of an escape by name behind its letter, and what follows. -/
def namedEscape : List Char → List Char × List Char
  | [] => ([], [])
  | '\x7b' :: rest =>
    let name := rest.takeWhile (· ≠ '\x7d')
    ('\x7b' :: rest.take (name.length + 1), rest.drop (name.length + 1))
  | c :: rest => ([c], rest)

def before (s : List Char) (r : Except Fault (List Char × PlainEnd × List Char)) :
    Except Fault (List Char × PlainEnd × List Char) :=
  r.map fun (part, e, rest) => (s ++ part, e, rest)

/-- The end of a plain part at a brace. In a format, any brace is an end. -/
def atBrace (inFormat : Bool) (c : Char) (rest : List Char) :
    Except Fault (List Char × PlainEnd × List Char) :=
  if inFormat then .ok ([], .stop, c :: rest)
  else if rest.head? = some c then .ok ([c], .doubled, rest.drop 1)
  else if c = '\x7d' then .error (.formatted "single '\x7d' is not allowed")
  else .ok ([], .stop, c :: rest)

def isBrace (c : Char) : Bool := c = '\x7b' || c = '\x7d'

/-- The plain part that a text of at most `fuel` characters starts with, what ends it, and what
follows. -/
def plainPart (raw inFormat : Bool) : Nat → List Char →
    Except Fault (List Char × PlainEnd × List Char)
  | 0, s => .ok ([], .stop, s)
  | fuel + 1, s =>
    match s with
    | [] => .ok ([], .stop, [])
    | c :: rest =>
      if c = '\\' ∧ !raw then
        match rest with
        | [] => .ok ([c], .stop, [])
        | d :: rest =>
          if d = 'N' then
            let (name, rest) := namedEscape rest
            before (c :: d :: name) (plainPart raw inFormat fuel rest)
          -- a backslash does not keep a brace from counting
          else if isBrace d then before [c] (atBrace inFormat d rest)
          else before [c, d] (plainPart raw inFormat fuel rest)
      else if isBrace c then atBrace inFormat c rest
      else before [c] (plainPart raw inFormat fuel rest)

/-! ## Expressions -/

/-- Where the scan of an expression stands: the quote of the text literal that it is in, with the
number of them that end it, and the open brackets. -/
structure Scan where
  quote : Option (Char × Nat)
  brackets : List Char
  deriving DecidableEq, Repr

namespace Scan

def start : Scan := ⟨none, []⟩

def stepQuoted (sc : Scan) (quote : Char) (size : Nat) (c : Char) (rest : List Char) : Nat × Scan :=
  if (c :: rest.take 2).take size = List.replicate size quote then
    (size - 1, { sc with quote := none })
  else (0, sc)

def stepClosing (sc : Scan) (c : Char) : Except Fault Scan :=
  match sc.brackets with
  | [] => .error (.formatted ("unmatched '" ++ String.singleton c ++ "'"))
  | opening :: outer =>
    if opening = openingOf c then .ok { sc with brackets := outer }
    else .error (.formatted (Fault.message (.mismatched c opening none)))

/-- Can the character end an expression or start a comparison? -/
def isEnding (c : Char) : Bool := ['!', ':', '\x7d', '=', '<', '>'].contains c

/-- Scan a character that can end an expression: the number of characters that belong to it. -/
def ending (c : Char) (rest : List Char) : Option Nat :=
  if ['!', '=', '<', '>'].contains c ∧ rest.head? = some '=' then some 1
  else if c = '<' ∨ c = '>' then some 0
  else none

/-- Scan a character: how many more are scanned with it and where the scan stands then, unless the
expression ends before it. -/
def step (sc : Scan) (c : Char) (rest : List Char) : Except Fault (Option (Nat × Scan)) :=
  if c = '\\' then .error (.forbidden "a backslash")
  else
    match sc.quote with
    | some (q, size) => .ok (some (sc.stepQuoted q size c rest))
    | none =>
      if c = '\'' ∨ c = '"' then
        let size := if rest.take 2 = [c, c] then 3 else 1
        .ok (some (size - 1, { sc with quote := some (c, size) }))
      else if ['(', '[', '\x7b'].contains c then
        if maxDepth ≤ sc.brackets.length then .error (.formatted "too many nested parenthesis")
        else .ok (some (0, { sc with brackets := c :: sc.brackets }))
      else if c = '#' then .error (.forbidden "'#'")
      else if sc.brackets = [] ∧ isEnding c then .ok ((ending c rest).map fun n => (n, sc))
      else if [')', ']', '\x7d'].contains c then do return some (0, ← sc.stepClosing c)
      else .ok (some (0, sc))

def endFault (sc : Scan) : Fault :=
  match sc.quote, sc.brackets with
  | some _, _ => .formatted "unterminated string"
  | none, c :: _ => .formatted ("unmatched '" ++ String.singleton c ++ "'")
  | none, [] => .formatted "expecting '\x7d'"

end Scan

/-- The text of an expression up to what ends it, and the text from there on. -/
def expressionPart (sc : Scan) (s : List Char) : Except Fault (List Char × List Char) :=
  match s with
  | [] => .error sc.endFault
  | c :: rest =>
    match sc.step c rest with
    | .error f => .error f
    | .ok none => .ok ([], c :: rest)
    | .ok (some (n, sc)) =>
      (expressionPart sc (rest.drop n)).map fun (part, after) => (c :: rest.take n ++ part, after)
termination_by s.length
decreasing_by simp only [List.length_cons, List.length_drop]; omega

/-! ## Formatted texts -/

def unclosed : Fault := .formatted "expecting '\x7d'"

def isSpace (c : Char) : Bool := [' ', '\t', '\n', '\x0c'].contains c

/-- What follows the equals sign behind an expression, if there is one, and the white space after
it. -/
def afterEquals : List Char → List Char
  | '=' :: rest => rest.dropWhile fun c => isSpace c || c = '\x0b'
  | rest => rest

/-- What follows the conversion behind an expression, if there is one. -/
def afterConversion : List Char → Except Fault (List Char)
  | '!' :: rest =>
    match rest with
    | [] => .error unclosed
    | c :: rest =>
      if ['s', 'r', 'a'].contains c then .ok rest
      else .error (.formatted "invalid conversion character: expected 's', 'r', or 'a'")
  | rest => .ok rest

/-- Check the text of an expression that ends before a character. -/
def checkExpression (parse : List Char → Except Fault Unit) (part : List Char) (ended : Char) :
    Except Fault Unit :=
  if part.all isSpace then
    .error (.formatted (
      if ended = '\x7d' then "empty expression not allowed"
      else "expression required before '" ++ String.singleton ended ++ "'"))
  else parse ('(' :: part ++ [')'])

/-- How deep a format may be inside of others. -/
def maxLevel : Nat := 2

/-- Check a formatted text of at most `fuel` characters that is `level` formats deep; what is left
starts with the brace that ends the format. -/
def checkFrom (parse : List Char → Except Fault Unit) (raw : Bool) :
    Nat → Nat → List Char → Except Fault (List Char)
  | 0, _, s => .ok s
  | fuel + 1, level, s => do
    let (part, ended, rest) ← plainPart raw (level ≠ 0) s.length s
    unless raw do Literal.checkEscapes part
    match ended, rest with
    | .doubled, rest => checkFrom parse raw fuel level rest
    | .stop, '\x7b' :: rest =>
      if maxLevel ≤ level then throw (.formatted "expressions nested too deeply")
      let (part, rest) ← expressionPart .start rest
      checkExpression parse part (rest.headD ' ')
      let rest ← afterConversion (afterEquals rest)
      let rest ← match rest with
        | [':'] => throw unclosed
        | ':' :: rest => checkFrom parse raw fuel (level + 1) rest
        | rest => pure rest
      match rest with
      | '\x7d' :: rest => checkFrom parse raw fuel level rest
      | _ => throw unclosed
    | .stop, rest =>
      if level ≠ 0 ∧ rest = [] then throw unclosed
      return rest

/-- Check a formatted text. Expressions in it are checked in parentheses. -/
def check (parse : List Char → Except Fault Unit) (l : Literal) : Except Fault Unit := do
  discard (checkFrom parse l.isRaw (l.body.length + 1) 0 l.body)

end BindingIndex.Expression.Formatted
