import BindingIndex.ClassText
import BindingIndex.Config.Fault
import BindingIndex.PropertyList
import BindingIndex.Yaml.Document

/-!
# Failures around configurations

* `ConfigError`: what is reported as a configuration that cannot be used.
* `Failure`: everything that may go wrong between the options and the names, of which only some is a
  configuration error.
-/

namespace BindingIndex

/-- Why there is no configuration, or none that can be used. -/
inductive ConfigError where
  | notFound (path : Path)
  | malformed
  | unreadable (path : Path) (why : ReadFault)
  | empty
  | notMapping
  | invalid (report : Config.Report)
  | packageRequired
  | listNotFound (path : Path)
  | listUnreadable (path : Path) (why : ReadFault)

def ConfigError.message : ConfigError → Text
  | notFound p => "Configuration file not found: " ++ p.toText
  | malformed => "Invalid YAML in configuration file"
  | unreadable p why => "Cannot read configuration file " ++ p.toText ++ ": " ++ why.message
  | empty => "Configuration file is empty"
  | notMapping => "Configuration file must contain a mapping at the top level"
  | invalid r => "Configuration validation failed:\n" ++ r.message
  | packageRequired => "A package name is required ('--package')"
  | listNotFound p => "Properties file not found: " ++ p.toText
  | listUnreadable p why => "Cannot read properties file " ++ p.toText ++ ": " ++ why.message

inductive Failure where
  | config (e : ConfigError)
  | source (f : ClassText.Fault)
  | file (e : FileError)
  /-- A text that is put out holds a surrogate. -/
  | unencodable (f : Text.Fault)
  /-- A mapping has a key that is no field name at all. -/
  | nonTextKey
  /-- A scalar's text does not fit its tag. -/
  | scalar (f : Yaml.Fault)
  /-- A value of this kind has no items. -/
  | notIterable (kind : String)

def Failure.message : Failure → Text
  | config e => e.message
  | source f => f.message
  | file e => e.message
  | unencodable f => f.message
  | nonTextKey => "keywords must be strings"
  | scalar f => f.message
  | notIterable kind => "'" ++ kind ++ "' object is not iterable"

end BindingIndex
