import ReviewPanel.Chat.Router
import ReviewPanel.Gate.Config
import ReviewPanel.Workflow.Template

/-!
# Configuration

The configuration of a panel: templates that override built-in ones,
thresholds of gates, and settings of chats and of logging. Every part has
defaults. A configuration is valid when its gates, its chat settings and its
templates are, checked in this order.
-/

namespace ReviewPanel

open Numeric

/-- The formats of log output. -/
inductive LogFormat
  | text
  | json
  deriving Repr, DecidableEq

namespace LogFormat

def label : LogFormat → String
  | .text => "text"
  | .json => "json"

def ofLabel? (text : String) : Option LogFormat := [LogFormat.text, .json].find? (·.label == text)

end LogFormat

/-- Settings of logging. -/
structure Telemetry where
  format : LogFormat
  filter : Option String
  deriving Repr, DecidableEq

namespace Telemetry

def default : Telemetry := ⟨.text, none⟩

instance : Inhabited Telemetry := ⟨default⟩

def toJson (t : Telemetry) : Json :=
  .object [("format", .text t.format.label), ("filter", .textOrNull t.filter)]

def ofDatum (dialect : Dialect) (d : Datum) : Reading Telemetry :=
  d.asStructure dialect ["format", "filter"] fun fs =>
    Telemetry.mk <$> fs.orElse 0 (Datum.asVariant dialect LogFormat.ofLabel?) .text
      <*> fs.optionalOrElse 1 Datum.asText

end Telemetry

/-- Settings of chats. -/
structure ChatConfig where
  timeoutSeconds : Nat
  /-- Words beyond the built-in ones. -/
  keywords : Table (List String)
  deriving Repr, DecidableEq

namespace ChatConfig

def default : ChatConfig := ⟨Router.defaultLimitSeconds, .empty⟩

instance : Inhabited ChatConfig := ⟨default⟩

/-- The built-in keywords and those of the configuration. -/
def keywordTable (c : ChatConfig) : KeywordTable :=
  c.keywords.entries.foldl (fun t e => t.extend e.1 e.2) .builtin

def toJson (c : ChatConfig) : Json :=
  .object [("timeout_secs", .nat c.timeoutSeconds),
    ("keywords", .ofTable (c.keywords.map .texts))]

def ofDatum (dialect : Dialect) (d : Datum) : Reading ChatConfig :=
  d.asStructure dialect ["timeout_secs", "keywords"] fun fs =>
    ChatConfig.mk <$> fs.orElse 0 (Datum.asNat Datum.bound64) default.timeoutSeconds
      <*> fs.orElse 1 (Datum.asTable (Datum.asList Datum.asText)) .empty

end ChatConfig

/-- The formats of configuration files. -/
inductive FileFormat
  | yaml
  | toml
  deriving Repr, DecidableEq

/-- Why there is no configuration, or an invalid one. -/
inductive ConfigError
  | gates (error : GateError)
  | chatTimeout
  | templates (error : WorkflowError)
  | unsupportedFormat (path : String)
  | unreadableFile (path : String)
  | malformed (format : FileFormat) (fault : Fault)
  deriving Repr, DecidableEq

/-- The text of an error; a file that cannot be read or understood has none of
its own. -/
def ConfigError.message : ConfigError → String
  | .gates e => e.message
  | .chatTimeout => "Invalid configuration: chat.timeout_secs must be positive"
  | .templates e => e.message
  | .unsupportedFormat path =>
    s!"Unsupported config format: {path} (expected .yaml, .yml or .toml)"
  | .unreadableFile _ => ""
  | .malformed _ (.deadline f) => f.message
  | .malformed _ .mismatch => ""

/-- The configuration of a panel. -/
structure Config where
  templates : Table Template
  gates : GateConfig
  chat : ChatConfig
  telemetry : Telemetry
  deriving Repr, DecidableEq

namespace Config

def default : Config := ⟨.empty, .default, .default, .default⟩

instance : Inhabited Config := ⟨default⟩

/-- The built-in templates under the overrides of the configuration. -/
def templateSet (c : Config) : Except ConfigError TemplateSet :=
  (TemplateSet.builtin.applyOverrides c.templates).mapError .templates

/-- Refuses chats without any time. -/
def validateChat (c : ChatConfig) : Except ConfigError Unit :=
  if c.timeoutSeconds = 0 then .error .chatTimeout else .ok ()

/-- Refuses a configuration that cannot be run. -/
def validate (c : Config) : Except ConfigError Unit := do
  c.gates.validate.mapError .gates
  validateChat c.chat
  discard c.templateSet

def toJson (c : Config) : Json :=
  .object
    [("templates", .ofTable (c.templates.map Template.toJson)), ("gates", c.gates.toJson),
      ("chat", c.chat.toJson), ("telemetry", c.telemetry.toJson)]

def ofDatum (dialect : Dialect) (d : Datum) : Reading Config :=
  d.asStructure dialect ["templates", "gates", "chat", "telemetry"] fun fs =>
    Config.mk <$> fs.orElse 0 (Datum.asTable (Template.ofDatum dialect)) .empty
      <*> fs.orElse 1 (GateConfig.ofDatum dialect) .default
      <*> fs.orElse 2 (ChatConfig.ofDatum dialect) .default
      <*> fs.orElse 3 (Telemetry.ofDatum dialect) .default

end Config

end ReviewPanel
