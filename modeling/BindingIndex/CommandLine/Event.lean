import BindingIndex.Path

/-!
# Events

What a command says about its work beside its output.

* `CommandLine.Event`: the events, with their log lines.
* `CommandLine.Event.isDetail`: the events that are shown on request only.
-/

namespace BindingIndex.CommandLine

inductive Event where
  | loaded (config : Path)
  | listed (count : Nat) (list : Path)
  | rendering (packageName : Text) (count : Nat)
  | current (file : Path)
  | wrote (file : Path)
  deriving DecidableEq, Repr

namespace Event

def isDetail : Event → Bool
  | wrote _ => false
  | _ => true

/-- The log line of an event: who says it, and what. -/
def line : Event → Text
  | loaded config => "brgen.config.loader: Loaded configuration from " ++ config.toText
  | listed count list =>
    "brgen.config.loader: Read " ++ toString count ++ " property names from " ++ list.toText
  | rendering packageName count =>
    "brgen.writer.br_writer: Rendering BR for " ++ packageName ++ " with " ++ toString count ++
      " properties"
  | current file => "brgen.output.file_writer: " ++ file.toText ++ " is up to date"
  | wrote file => "brgen.output.file_writer: Wrote " ++ file.toText

end Event

def shownEvents (verbose : Bool) (events : List Event) : List Event :=
  events.filter fun e => verbose || !e.isDetail

/-- The log, in which surrogates are escapes. -/
def logText (events : List Event) : String :=
  String.join (events.map fun e => e.line.withEscapes ++ "\n")

end BindingIndex.CommandLine
