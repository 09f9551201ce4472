import BindingIndex.CommandLine.Usage

/-!
# Command line arguments

Options stand anywhere among the arguments of a command. A long option has its value after an equals
sign or in the next argument, a short one right behind it or in the next argument; short options
without a value may share one argument. After `--` nothing is an option.

* `CommandLine.OptionSpec`: an option that a command knows.
* `CommandLine.readOption`: what a single argument gives.
* `CommandLine.readArguments`: what all arguments give, in order.
-/

namespace BindingIndex.CommandLine

inductive OptionKey where
  | config
  | package
  | property
  | propertiesFile
  | final
  | noFinal
  | output
  | dryRun
  | verbose
  deriving DecidableEq, Repr

/-- An option that a command knows, by its long name and maybe a letter. -/
structure OptionSpec where
  key : OptionKey
  long : String
  short : Option Char
  takesValue : Bool
  deriving DecidableEq, Repr

/-- An option that was given; one that takes no value has an empty one. -/
structure GivenOption where
  key : OptionKey
  value : Text
  deriving DecidableEq, Repr

/-- What an argument gives: options, and maybe one whose value is the next argument, with the name
it was written with. -/
structure Reading where
  given : List GivenOption
  awaiting : Option (OptionKey × Text)
  deriving DecidableEq, Repr

/-- Is the argument an option? A lone dash is not. -/
def isOption : Text → Bool
  | .char '-' :: _ :: _ => true
  | _ => false

def readShort (specs : List OptionSpec) : Text → Except UsageError Reading
  | [] => .ok ⟨[], none⟩
  | p :: rest =>
    let name : Text := [.char '-', p]
    match specs.find? fun s => s.short.map CodePoint.char = some p with
    | none => .error (.noSuchOption name [])
    | some s =>
      if s.takesValue then
        if rest = [] then .ok ⟨[], some (s.key, name)⟩
        else .ok ⟨[⟨s.key, rest⟩], none⟩
      else (readShort specs rest).map fun r => { r with given := ⟨s.key, []⟩ :: r.given }

/-- Read a long option, with the value that is attached to it if there is one. -/
def readLong (s : OptionSpec) (value : Option Text) : Except UsageError Reading :=
  match s.takesValue, value with
  | true, some v => .ok ⟨[⟨s.key, v⟩], none⟩
  | true, none => .ok ⟨[], some (s.key, s.long)⟩
  | false, some _ => .error (.unexpectedValue s.long)
  | false, none => .ok ⟨[⟨s.key, []⟩], none⟩

/-- The value behind the first equals sign. -/
def attachedValue (arg : Text) : Option Text :=
  match arg.dropWhile (· ≠ .char '=') with
  | [] => none
  | _ :: value => some value

def readOption (specs : List OptionSpec) (arg : Text) : Except UsageError Reading :=
  let name := arg.takeWhile (· ≠ .char '=')
  match specs.find? fun s => name = s.long with
  | some s => readLong s (attachedValue arg)
  | none =>
    -- after a single dash every letter is an option of its own
    if (Text.ofString "--").isPrefixOf arg then .error (.noSuchOption name [])
    else readShort specs (arg.drop 1)

structure Given where
  options : List GivenOption
  /-- The arguments that are no options. -/
  extra : List Text
  deriving DecidableEq, Repr

namespace Given

def nothing : Given := ⟨[], []⟩

def withOptions (os : List GivenOption) (g : Given) : Given := { g with options := os ++ g.options }

def withExtra (arg : Text) (g : Given) : Given := { g with extra := arg :: g.extra }

def values (g : Given) (key : OptionKey) : List Text :=
  (g.options.filter fun o => o.key = key).map GivenOption.value

/-- The value given last for a key. -/
def value? (g : Given) (key : OptionKey) : Option Text := (g.values key).getLast?

def has (g : Given) (key : OptionKey) : Bool := g.options.any fun o => o.key = key

end Given

def readArguments (specs : List OptionSpec) : List Text → Except UsageError Given
  | [] => .ok .nothing
  | arg :: rest =>
    if arg = "--" then .ok ⟨[], rest⟩
    else if isOption arg then
      match readOption specs arg with
      | .error e => .error e
      | .ok ⟨given, none⟩ => (readArguments specs rest).map (Given.withOptions given)
      | .ok ⟨given, some (key, name)⟩ =>
        -- the next argument is the value, even if it looks like an option
        match rest with
        | [] => .error (.missingValue name)
        | value :: rest =>
          (readArguments specs rest).map (Given.withOptions (given ++ [⟨key, value⟩]))
    else (readArguments specs rest).map (Given.withExtra arg)

/-- Read the arguments of a command that takes nothing but options. -/
def readOptions (specs : List OptionSpec) (args : List Text) : Except UsageError Given :=
  match readArguments specs args with
  | .error e => .error e
  | .ok g => if g.extra = [] then .ok g else .error (.extraArguments g.extra)

end BindingIndex.CommandLine
