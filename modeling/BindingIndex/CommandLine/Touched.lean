import BindingIndex.CommandLine.Run

/-!
# Touched paths

* `CommandLine.touched`: the paths that a command line reads or writes, as far as a tree tells.
-/

namespace BindingIndex.CommandLine

/-- The paths of a run with options; `write` tells whether the class file is one of them. Before the
configuration file is known, it is the only one. -/
def touchedBy (t : FileTree) (o : Options) (write : Bool) : List Path :=
  (Config.givenPath o.config).toList ++
    match Config.resolve t o with
    | .error _ => []
    | .ok c =>
      c.propertiesFile.toList ++
        if write then [ClassFile.target c.outputDir c.generation.packageName] else []

def Command.touched (t : FileTree) : Command → List Path
  | generate r => touchedBy t r.options !r.dryRun
  | showIndices o => touchedBy t o false
  | initConfig output => [.ofText output]

def touched (t : FileTree) (args : List Text) : List Path :=
  match Command.ofArguments args with
  | .error _ => []
  | .ok c => c.touched t

end BindingIndex.CommandLine
