import BindingIndex.CommandLine.Event
import BindingIndex.Config.Options

/-!
# Preparing a run

* `CommandLine.prepare`: the configuration of a run and the names it lists, with what was read on
  the way.
-/

namespace BindingIndex.CommandLine

structure Prepared where
  config : Config
  names : List Text
  deriving DecidableEq, Repr

def loadedEvents (o : Options) : List Event :=
  ((Config.givenPath o.config).map Event.loaded).toList

/-- The event of a property list that was read; its names come after the inline ones. -/
def listedEvents (p : Prepared) : List Event :=
  (p.config.propertiesFile.map fun f =>
    Event.listed (p.names.length - p.config.properties.length) f).toList

def prepare (t : FileTree) (o : Options) : List Event × Except Failure Prepared :=
  match Config.resolve t o with
  | .error f => ([], .error f)
  | .ok c =>
    match Config.propertyNames t c with
    | .error f => (loadedEvents o, .error f)
    | .ok names => (loadedEvents o ++ listedEvents ⟨c, names⟩, .ok ⟨c, names⟩)

end BindingIndex.CommandLine
