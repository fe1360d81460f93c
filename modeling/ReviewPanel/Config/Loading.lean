import ReviewPanel.Config.Basic
import ReviewPanel.Text.Path
import ReviewPanel.Toml.Document
import ReviewPanel.Yaml.Document

/-!
# Loading configurations

A configuration is read from a file whose extension names its format. The file
is read first, then its format is looked at, then its text is decoded, and at
last the configuration is checked: the first of these that fails is reported.
-/

namespace ReviewPanel

/-- What files hold, by the paths that lead to them. -/
structure FileSystem where
  /-- The content of a file; none where it cannot be read. -/
  read? : (path : String) → Option ByteArray

namespace FileSystem

/-- The text of the file that a path leads to. -/
def readText? (files : FileSystem) (path : String) : Option String :=
  (files.read? path).bind String.fromUTF8?

/-- Nothing but the files below the directory that paths start from. -/
def ofDirectory (entries : List (String × ByteArray)) : FileSystem where
  read? path := do
    let names ← Text.namesBelow? path
    let file ← entries.find? fun f => Text.namesBelow? f.1 == some names
    return file.2

end FileSystem

namespace FileFormat

/-- The format that a file name extension stands for, in letters of either case. -/
def ofExtension? (extension : String) : Option FileFormat :=
  match Text.lowercase extension with
  | "yaml" | "yml" => some .yaml
  | "toml" => some .toml
  | _ => none

def ofPath? (path : String) : Option FileFormat :=
  (Text.extension? path).bind ofExtension?

/-- Reads a configuration from a text in a format. -/
def decode (format : FileFormat) (text : String) : Reading Config :=
  match format with
  | .yaml => Yaml.decode (Config.ofDatum .yaml) text
  | .toml => Toml.decode (Config.ofDatum .toml) text

end FileFormat

/-- Thresholds of gates from a YAML text. -/
def GateConfig.ofYaml (text : String) : Except ConfigError GateConfig := do
  let c ← (Yaml.decode (GateConfig.ofDatum .yaml) text).mapError (.malformed .yaml)
  c.validate.mapError .gates
  return c

namespace Config

/-- The configuration in a file, for a decoder of its text. -/
def loadWith (decode : FileFormat → String → Reading Config) (files : FileSystem)
    (path : String) : Except ConfigError Config := do
  let some text := files.readText? path | throw (.unreadableFile path)
  let some format := FileFormat.ofPath? path | throw (.unsupportedFormat path)
  let c ← (decode format text).mapError (.malformed format)
  c.validate
  return c

/-- The configuration in a file. -/
def load : FileSystem → String → Except ConfigError Config := loadWith FileFormat.decode

/-- The configuration in the file that a variable names, for a decoder of its
text; without one the default. -/
def ofVariableWith (decode : FileFormat → String → Reading Config) (files : FileSystem)
    (value : Option String) : Except ConfigError Config :=
  match value with
  | some path =>
    if Text.isBlankText path then .ok default else loadWith decode files (Text.trim path)
  | none => .ok default

/-- The configuration in the file that a variable names. -/
def ofVariable : FileSystem → Option String → Except ConfigError Config :=
  ofVariableWith FileFormat.decode

end Config

end ReviewPanel
