import BindingIndex.CommandLine.Arguments
import BindingIndex.CommandLine.Generate
import BindingIndex.CommandLine.Init
import BindingIndex.CommandLine.Show
import BindingIndex.Text.Similar

/-!
# Running a command line

* `CommandLine.Command`: the commands, with what is asked of each.
* `CommandLine.Command.ofArguments`: the command that a command line names.
* `CommandLine.run`: the outcome of a command line.
-/

namespace BindingIndex.CommandLine

inductive Command where
  | generate (request : GenerateRequest)
  | showIndices (options : Options)
  | initConfig (output : Text)
  deriving DecidableEq, Repr

/-- The options about where names come from. -/
def sourceSpecs : List OptionSpec :=
  [⟨.config, "--config", some 'c', true⟩, ⟨.package, "--package", some 'p', true⟩,
    ⟨.property, "--property", none, true⟩,
    ⟨.propertiesFile, "--properties-file", some 'f', true⟩,
    ⟨.final, "--final", none, false⟩, ⟨.noFinal, "--no-final", none, false⟩]

def outputSpec : OptionSpec := ⟨.output, "--output", some 'o', true⟩

def generateSpecs : List OptionSpec :=
  sourceSpecs ++ [outputSpec, ⟨.dryRun, "--dry-run", none, false⟩,
    ⟨.verbose, "--verbose", some 'v', false⟩]

/-- The finality that was asked for last. -/
def finality? (g : Given) : Option Bool :=
  (g.options.filterMap fun o =>
    match o.key with
    | .final => some true
    | .noFinal => some false
    | _ => none).getLast?

def optionsOf (g : Given) : Options where
  config := g.value? .config
  package := g.value? .package
  properties := g.values .property
  propertiesFile := g.value? .propertiesFile
  useFinal := finality? g
  output := g.value? .output

/-- Where the init command writes unless it is told. -/
def defaultConfigFile : String := "./brgen.yaml"

def commandNames : List String := ["generate", "show", "init"]

namespace Command

/-- The commands that the next argument may stand for, when there is no command before it. -/
def similarTo : List Text → List String
  | [] => []
  | word :: _ => Text.closest word commandNames

def ofName (name : Text) (args : List Text) : Except UsageError Command :=
  match name.toString? with
  | some "generate" =>
    (readOptions generateSpecs args).map fun g =>
      .generate ⟨optionsOf g, g.has .dryRun, g.has .verbose⟩
  | some "show" => (readOptions sourceSpecs args).map fun g => .showIndices (optionsOf g)
  | some "init" =>
    (readOptions [outputSpec] args).map fun g =>
      .initConfig ((g.value? .output).getD defaultConfigFile)
  | _ => .error (.noSuchCommand name (similarTo [name]))

/-- The command behind `--`. A name that looks like an option is still taken for one, and a second
`--` for a name; then it is the argument after it that may have been meant. -/
def afterDashes : List Text → Except UsageError Command
  | [] => .error .missingCommand
  | name :: args =>
    if name = "--" then .error (.noSuchCommand name (similarTo args))
    else if isOption name then
      match readOption [] name with
      | .error (.noSuchOption option _) => .error (.noSuchOption option (similarTo args))
      | .error e => .error e
      | .ok _ => ofName name args
    else ofName name args

/-- The command that a command line names. It knows no options before the name. -/
def ofArguments : List Text → Except UsageError Command
  | [] => .error .missingCommand
  | arg :: rest =>
    if arg = "--" then afterDashes rest
    else if isOption arg then
      match readOption [] arg with
      | .error e => .error e
      -- not reached: where no option is known, none can be read
      | .ok _ => ofArguments rest
    else ofName arg rest

def run (t : FileTree) (input : String) : Command → Outcome
  | .generate r => CommandLine.generate t r
  | .showIndices o => CommandLine.showIndices t o
  | .initConfig output => CommandLine.initConfig t output input

end Command

def run (t : FileTree) (args : List Text) (input : String) : Outcome :=
  match Command.ofArguments args with
  | .error e => ⟨t, [], [], .usage e⟩
  | .ok c => c.run t input

end BindingIndex.CommandLine
