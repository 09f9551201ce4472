import BindingIndex.Value.Literal

/-!
# Usage errors

* `UsageError`: why a command line cannot be understood, with its text.
* `CommandLine.visible`: an argument as such a text shows it.
-/

namespace BindingIndex

/-- Why a command line cannot be understood. An option is given as it was written; `similar` are the
commands that may have been meant instead. -/
inductive UsageError where
  | noSuchOption (name : Text) (similar : List String)
  | missingValue (name : Text)
  | unexpectedValue (name : Text)
  | extraArguments (args : List Text)
  | noSuchCommand (name : Text) (similar : List String)
  | missingCommand
  deriving DecidableEq, Repr

namespace CommandLine

def isControl (p : CodePoint) : Bool := p.toNat < 0x20 || (0x7F ≤ p.toNat && p.toNat < 0xA0)

/-- An argument with its control characters as escapes. -/
def visible (arg : Text) : Text :=
  arg.flatMap fun p => if isControl p then Text.ofChars (Value.escapeCode p.toNat) else [p]

/-- A complaint with the commands that may have been meant. They take the place of its full stop,
and of any other one at its end. -/
def suggesting (complaint : Text) (similar : List String) : Text :=
  if similar = [] then complaint
  else
    (complaint.reverse.dropWhile (· = .char '.')).reverse ++ ". Did you mean " ++
      ", ".intercalate (similar.map Value.quoted) ++ "?"

end CommandLine

open CommandLine in
def UsageError.message : UsageError → Text
  | noSuchOption name similar => suggesting ("No such option: " ++ visible name) similar
  | missingValue name => "Option " ++ Value.quotedText name ++ " requires an argument."
  | unexpectedValue name => "Option " ++ Value.quotedText name ++ " does not take a value."
  | extraArguments args =>
    "Got unexpected extra argument(s) (" ++
      (Text.ofString " ").intercalate (args.map visible) ++ ")"
  | noSuchCommand name similar =>
    suggesting ("No such command " ++ Value.quotedText name ++ ".") similar
  | missingCommand => "Missing command."

end BindingIndex
