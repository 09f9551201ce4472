import BindingIndex.CommandLine.Outcome
import BindingIndex.Config.File
import BindingIndex.Console.Escapes

/-!
# The init command

A new configuration file is written. Where there is something already, the user is asked first,
until a line of input decides.

* `CommandLine.decision?`: what a line of input decides.
* `CommandLine.ask`: the dialog, and what came of it.
* `CommandLine.initConfig`: the outcome.
-/

namespace BindingIndex.CommandLine

/-! ## Asking -/

/-- The lines of an input. What follows the last line feed is a line unless it is empty. -/
def inputLines (input : String) : List (List Char) :=
  let parts := (Text.unifyNewlines input.toList).splitOn '\n'
  if parts.getLast? = some [] then parts.dropLast else parts

/-- What a line decides: yes, no, or nothing. An empty line is a no. -/
def decision? (line : List Char) : Option Bool :=
  let word := String.ofList (Text.trim (Text.lower line))
  if word = "y" ∨ word = "yes" then some true
  else if word = "n" ∨ word = "no" ∨ word = "" then some false
  else none

inductive Consent where
  | given
  | refused
  /-- The input ended before it decided. -/
  | undecided
  deriving DecidableEq, Repr

/-- Ask until a line decides. The dialog shows each line after the question that it answers. -/
def ask (question : List Char) : List (List Char) → List Char × Consent
  | [] => (question, .undecided)
  | line :: rest =>
    let shown := question ++ line ++ ['\n']
    match decision? line with
    | some true => (shown, .given)
    | some false => (shown, .refused)
    | none =>
      let (dialog, consent) := ask question rest
      (shown ++ "Error: invalid input\n".toList ++ dialog, consent)

/-- The question before something is overwritten. -/
def overwriteQuestion (output : Text) : Text :=
  Console.withoutEscapes (output ++ " already exists. Overwrite? [y/N]:") ++ " "

/-! ## Writing -/

def initMarkup (path : Path) : Text :=
  "[green]Configuration written to " ++ path.toText ++ "[/green]\n" ++
    "Edit the package name and properties, then run [bold]brgen generate -c " ++
    path.toText ++ "[/bold]"

def writeNew (t : FileTree) (path : Path) (dialog : List Char) : Outcome :=
  match Config.writeDefault t path with
  | (t, .error e) => ⟨t, dialog, [], .failed (.file e)⟩
  | (t, .ok ()) =>
    .printing t dialog [] .success (Console.printPanel "brgen init" (initMarkup path))

def initConfig (t : FileTree) (output : Text) (input : String) : Outcome :=
  let path := Path.ofText output
  match t.exists? path with
  | .error e => ⟨t, [], [], .failed (.file e)⟩
  | .ok false => writeNew t path []
  | .ok true =>
    -- a directory is asked about as well; it is the write that fails then
    match (overwriteQuestion output).chars with
    | .error f => ⟨t, [], [], .failed (.unencodable f)⟩
    | .ok question =>
      match ask question (inputLines input) with
      | (dialog, .given) => writeNew t path dialog
      | (dialog, .refused) =>
        .printing t dialog [] .refused (Console.printParagraph "[yellow]Cancelled.[/yellow]")
      | (dialog, .undecided) => ⟨t, dialog, [], .inputEnded⟩

end BindingIndex.CommandLine
