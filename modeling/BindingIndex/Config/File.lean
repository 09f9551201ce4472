import BindingIndex.Config.Check
import BindingIndex.Config.Error

/-!
# Configuration files

* `Config.ofDocument`: the configuration in the value of a document.
* `Config.load`: the configuration in a file; a relative properties file is taken from the file's
  directory.
* `Config.defaultText`, `Config.writeDefault`: the configuration that a new file starts with.
-/

namespace BindingIndex.Config

def hasTextKey : Value × Value → Bool
  | (.text _, _) => true
  | (.codes _, _) => true
  | _ => false

def ofDocument : Value → Except Failure Config
  | .null => .error (.config .empty)
  | .dict _ entries =>
    -- entries are passed on by name: another key fails before any field is checked
    if entries.all hasTextKey then
      match validate entries with
      | .ok c => .ok c
      | .error r => .error (.config (.invalid r))
    else .error .nonTextKey
  | _ => .error (.config .notMapping)

def ofBytes (path : Path) (bytes : List UInt8) : Except Failure Config :=
  match Yaml.read (.ofBytes bytes) with
  | .ok v => ofDocument v
  | .error .malformed => .error (.config .malformed)
  | .error (.unreadable f) => .error (.config (.unreadable path (.text f)))
  | .error f => .error (.scalar f)

/-- A configuration as seen from a directory: a relative properties file is below it. -/
def seenFrom (dir : Path) (c : Config) : Config :=
  { c with propertiesFile := c.propertiesFile.map dir.join }

def load (t : FileTree) (path : Path) : Except Failure Config :=
  match t.exists? path with
  | .error e => .error (.file e)
  | .ok false => .error (.config (.notFound path))
  | .ok true =>
    match t.read path with
    | .error e => .error (.config (.unreadable path (.file e)))
    | .ok bytes => (ofBytes path bytes).map (seenFrom path.parent)

def defaultText : String :=
  "generation:\n" ++
  "  package_name: com.example.app\n" ++
  "  use_final: true\n" ++
  "output:\n" ++
  "  output_dir: ./generated\n" ++
  "properties: []\n" ++
  "properties_file: null\n"

/-- Write a new configuration file, with the directories that lead to it. -/
def writeDefault (t : FileTree) (path : Path) : FileTree × Except FileError Unit :=
  match t.makeDirs path.parent with
  | (t, .error e) => (t, .error e)
  | (t, .ok ()) =>
    match t.write path (Text.Utf8.encode defaultText) with
    | .error e => (t, .error e)
    | .ok t => (t, .ok ())

end BindingIndex.Config
