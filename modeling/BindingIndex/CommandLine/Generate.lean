import BindingIndex.ClassFile
import BindingIndex.CommandLine.Outcome
import BindingIndex.CommandLine.Prepare
import BindingIndex.Console.Escapes

/-!
# The generate command

Resolve the configuration, collect the names and render their class; then print the source or bring
the class file up to date.

* `CommandLine.GenerateRequest`: what is asked for.
* `CommandLine.generate`: the outcome.
-/

namespace BindingIndex.CommandLine

structure GenerateRequest where
  options : Options
  dryRun : Bool
  verbose : Bool
  deriving DecidableEq, Repr

/-- The number of different names. -/
def distinct (names : List Text) : Nat := (IndexTable.ofNames names).length

def writtenMarkup (w : ClassFile.Written) (count : Nat) : Text :=
  if w.changed then
    "[green]✓[/green] Wrote " ++ w.path.toText ++ " (" ++ toString count ++ " properties)"
  else "[dim]" ++ w.path.toText ++ " is up to date[/dim]"

def writtenEvent (w : ClassFile.Written) : Event :=
  if w.changed then .wrote w.path else .current w.path

def store (t : FileTree) (verbose : Bool) (events : List Event) (p : Prepared) (source : Text) :
    Outcome :=
  match ClassFile.write t p.config.outputDir p.config.generation.packageName source with
  | (t, .error e) => ⟨t, [], shownEvents verbose events, .failed (.file e)⟩
  | (t, .ok w) =>
    -- the file stays, even if the message about it cannot be shown
    .printing t [] (shownEvents verbose (events ++ [writtenEvent w])) .success
      (Console.printParagraph (writtenMarkup w (distinct p.names)))

def generate (t : FileTree) (r : GenerateRequest) : Outcome :=
  match prepare t r.options with
  | (events, .error f) => refuse t (shownEvents r.verbose events) f
  | (events, .ok p) =>
    -- said before the names are looked at, so also where the reserved one is refused
    let events := events ++ [.rendering p.config.generation.packageName (distinct p.names)]
    match ClassText.render p.names p.config.generation with
    | .error f => refuse t (shownEvents r.verbose events) (.source f)
    | .ok source =>
      if r.dryRun then
        match (Console.withoutEscapes source).chars with
        | .ok shown => ⟨t, shown, shownEvents r.verbose events, .success⟩
        | .error f => ⟨t, [], shownEvents r.verbose events, .failed (.unencodable f)⟩
      else store t r.verbose events p source

end BindingIndex.CommandLine
