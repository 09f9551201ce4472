import BindingIndex.CommandLine.Event
import BindingIndex.CommandLine.Usage
import BindingIndex.Config.Error
import BindingIndex.Console.Screen

/-!
# Outcomes

* `CommandLine.Ending`: how a command ended, with its exit code and last words.
* `CommandLine.Outcome`: what a command leaves behind: files, output, events and its ending.
* `CommandLine.refuse`: the outcome of a run that could not start its work.
-/

namespace BindingIndex.CommandLine

inductive Ending where
  | success
  /-- An error was printed. -/
  | reported
  | refused
  | inputEnded
  | failed (f : Failure)
  /-- A message could not be shown. -/
  | unshown (f : Console.Fault)
  | usage (e : UsageError)

def Ending.exitCode : Ending → Nat
  | success => 0
  | usage _ => 2
  | _ => 1

/-- Did the command stop without doing what it could have done? -/
def Ending.isAbort : Ending → Bool
  | refused => true
  | inputEnded => true
  | _ => false

def Ending.farewell (e : Ending) : String := if e.isAbort then "Aborted.\n" else ""

/-- The text of an error that was not printed. -/
def Ending.complaint : Ending → Text
  | failed f => f.message
  | unshown f => f.message
  | usage e => e.message
  | _ => []

/-- What a command leaves behind. -/
structure Outcome where
  tree : FileTree
  output : List Char
  events : List Event
  ending : Ending

namespace Outcome

/-- The outcome of a run that ends by printing something. -/
def printing (t : FileTree) (output : List Char) (events : List Event) (ending : Ending) :
    Except Console.Fault (List Char) → Outcome
  | .ok s => ⟨t, output ++ s, events, ending⟩
  | .error f => ⟨t, output, events, .unshown f⟩

end Outcome

def errorMarkup (message : Text) : Text := "[bold red]Error:[/bold red] " ++ message

/-- Is the failure reported to the user, rather than left to whoever runs the command? -/
def isReported : Failure → Bool
  | .config _ => true
  | .source .reserved => true
  | _ => false

/-- The outcome of a run that could not start its work. -/
def refuse (t : FileTree) (events : List Event) (f : Failure) : Outcome :=
  if isReported f then
    .printing t [] events .reported (Console.printParagraph (errorMarkup f.message))
  else ⟨t, [], events, .failed f⟩

end BindingIndex.CommandLine
