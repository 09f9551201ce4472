import BindingIndex.Text.Digits
import BindingIndex.Text.Printable
import BindingIndex.Text.Utf8

/-!
# Faults of expressions

* `Expression.Fault`: why a text is no expression, with its text.
-/

namespace BindingIndex.Expression

inductive EscapeFault where
  /-- Characters that are no escape, from one offset up to another. -/
  | characters (first last : Nat) (reason : String)
  | byte (offset : Nat)
  deriving DecidableEq, Repr

inductive Fault where
  | character (c : Char)
  | nullCharacter
  | unterminated (tripled : Bool) (line : Nat)
  | unmatched (closing : Char)
  /-- A bracket closes another one, maybe of an earlier line. -/
  | mismatched (closing opening : Char) (line : Option Nat)
  | tooDeep
  | unclosed (opening : Char)
  /-- A number of a kind is not written as one. -/
  | number (kind : String)
  | digit (d : Char) (kind : String)
  | leadingZeros
  | tooManyDigits (count : Nat)
  | continuation
  /-- The indentation of a line goes back to no earlier one. -/
  | dedent
  /-- Tabs and spaces of two lines cannot be compared. -/
  | tabs
  /-- The text ends where a line should go on. -/
  | ended
  | indent
  | wideBytes
  | mixedLiterals
  | escape (f : EscapeFault)
  /-- No rule goes on with a token. -/
  | unexpected
  | missingComma
  | missingElse
  | assignment
  | assignmentTo (kind : String)
  | assignmentHere (kind : String)
  | namedExpression (kind : String)
  | assignedArgument
  | missingCallParentheses (name : String)
  | bareStar
  | starredGroup
  | doubleStarredGroup
  | starredComprehension
  | doubleStarredComprehension
  | unparenthesizedTarget
  | unparenthesizedGenerator
  | starAfterUnpacking
  | positionalAfterUnpacking
  | positionalAfterKeyword
  | missingColon
  | starredEntryValue
  | missingEntryValue
  | missingDefault
  | defaultFirst
  | parenthesizedParameters
  | slashFirst
  | slashTwice
  | slashAfterStar
  | slashThenStar
  | starAlone
  | starWithDefault
  | starTwice
  | doubleStarWithDefault
  | afterDoubleStar
  /-- A formatted text has no such form. -/
  | formatted (complaint : String)
  | forbidden (what : String)
  | within (f : Fault)
  deriving DecidableEq, Repr

def EscapeFault.message : EscapeFault → String
  | characters first last reason =>
    "(unicode error) 'unicodeescape' codec can't decode " ++
      (if first = last then "byte 0x5c in position " ++ toString first
        else "bytes in position " ++ toString first ++ "-" ++ toString last) ++ ": " ++ reason
  | byte offset => "(value error) invalid \\x escape at position " ++ toString offset

/-- The number of a character, in at least four digits of base sixteen. -/
def codeOf (c : Char) : String :=
  let digits := (Nat.toDigits 16 c.toNat).map Char.toUpper
  String.ofList (List.replicate (4 - digits.length) '0' ++ digits)

/-- Does the fault of a token outrank those of all rules, wherever the token is? The others count
only where a rule gets to the token. -/
def Fault.outranks : Fault → Bool
  | character _ => true
  | nullCharacter => true
  | unterminated _ _ => true
  | unmatched _ => true
  | mismatched _ _ _ => true
  | tooDeep => true
  | number _ => true
  | digit _ _ => true
  | leadingZeros => true
  | _ => false

/-- A fault of an expression in a formatted text; one that is deeper inside stays as it is. -/
def Fault.inside : Fault → Fault
  | within f => within f
  | f => within f

def Fault.message : Fault → String
  | character c =>
    if Text.isPrintable c then
      "invalid character '" ++ String.singleton c ++ "' (U+" ++ codeOf c ++ ")"
    else "invalid non-printable character U+" ++ codeOf c
  | nullCharacter => "source code string cannot contain null bytes"
  | unterminated tripled line =>
    "unterminated " ++ (if tripled then "triple-quoted string" else "string") ++
      " literal (detected at line " ++ toString line ++ ")"
  | unmatched c => "unmatched '" ++ String.singleton c ++ "'"
  | mismatched closing opening line =>
    "closing parenthesis '" ++ String.singleton closing ++
      "' does not match opening parenthesis '" ++ String.singleton opening ++ "'" ++
      line.elim "" fun n => " on line " ++ toString n
  | tooDeep => "too many nested parentheses"
  | unclosed c => "'" ++ String.singleton c ++ "' was never closed"
  | number kind => "invalid " ++ kind ++ " literal"
  | digit d kind => "invalid digit '" ++ String.singleton d ++ "' in " ++ kind ++ " literal"
  | leadingZeros =>
    "leading zeros in decimal integer literals are not permitted; " ++
      "use an 0o prefix for octal integers"
  | tooManyDigits count =>
    Text.tooManyDigits count ++
      " - Consider hexadecimal for huge integer literals to avoid decimal conversion limits."
  | continuation => "unexpected character after line continuation character"
  | dedent => "unindent does not match any outer indentation level"
  | tabs => "inconsistent use of tabs and spaces in indentation"
  | ended => "unexpected EOF while parsing"
  | indent => "unexpected indent"
  | wideBytes => "bytes can only contain ASCII literal characters"
  | mixedLiterals => "cannot mix bytes and nonbytes literals"
  | escape f => f.message
  | unexpected => "invalid syntax"
  | missingComma => "invalid syntax. Perhaps you forgot a comma?"
  | missingElse => "expected 'else' after 'if' expression"
  | assignment => "invalid syntax. Maybe you meant '==' or ':=' instead of '='?"
  | assignmentTo kind => "cannot assign to " ++ kind
  | assignmentHere kind =>
    "cannot assign to " ++ kind ++ " here. Maybe you meant '==' instead of '='?"
  | namedExpression kind => "cannot use assignment expressions with " ++ kind
  | assignedArgument => "expression cannot contain assignment, perhaps you meant \"==\"?"
  | missingCallParentheses name =>
    "Missing parentheses in call to '" ++ name ++ "'. Did you mean " ++ name ++ "(...)?"
  | bareStar => "Invalid star expression"
  | starredGroup => "cannot use starred expression here"
  | doubleStarredGroup => "cannot use double starred expression here"
  | starredComprehension => "iterable unpacking cannot be used in comprehension"
  | doubleStarredComprehension => "dict unpacking cannot be used in dict comprehension"
  | unparenthesizedTarget => "did you forget parentheses around the comprehension target?"
  | unparenthesizedGenerator => "Generator expression must be parenthesized"
  | starAfterUnpacking => "iterable argument unpacking follows keyword argument unpacking"
  | positionalAfterUnpacking => "positional argument follows keyword argument unpacking"
  | positionalAfterKeyword => "positional argument follows keyword argument"
  | missingColon => "':' expected after dictionary key"
  | starredEntryValue => "cannot use a starred expression in a dictionary value"
  | missingEntryValue => "expression expected after dictionary key and ':'"
  | missingDefault => "expected default value expression"
  | defaultFirst => "non-default argument follows default argument"
  | parenthesizedParameters => "Lambda expression parameters cannot be parenthesized"
  | slashFirst => "at least one argument must precede /"
  | slashTwice => "/ may appear only once"
  | slashAfterStar => "/ must be ahead of *"
  | slashThenStar => "expected comma between / and *"
  | starAlone => "named arguments must follow bare *"
  | starWithDefault => "var-positional argument cannot have default value"
  | starTwice => "* argument may appear only once"
  | doubleStarWithDefault => "var-keyword argument cannot have default value"
  | afterDoubleStar => "arguments cannot follow var-keyword argument"
  | formatted complaint => "f-string: " ++ complaint
  | forbidden what => "f-string expression part cannot include " ++ what
  | within f => (if f.outranks then "" else "f-string: ") ++ f.message

end BindingIndex.Expression
