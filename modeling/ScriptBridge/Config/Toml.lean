import ScriptBridge.Config.Basic
import ScriptBridge.Config.Document
/-!
Configurations as TOML. A document sets some of the settings, each once; the others keep their
defaults. Writing sets all of them; how a document is written is left to a writer of documents.
-/

namespace ScriptBridge.Config

/-- The names of the settings. -/
def settingNames : List String :=
  ["tick_interval_ms", "enable_effect_commands", "effect_command_token", "log_unbridged_events",
    "entity_names_in_scripts"]

/-- Changes one setting; a name that is none, and a value of another type, are refused. The interval is
not negative. -/
def set? (config : Config) : String → Scalar → Option Config
  | "tick_interval_ms", .integer value =>
    if value < 0 then none else some { config with tickInterval := UInt64.ofNat value.toNat }
  | "enable_effect_commands", .boolean value => some { config with effectCommands := value }
  | "effect_command_token", .text value => some { config with commandToken := value }
  | "log_unbridged_events", .boolean value => some { config with logsUnbridged := value }
  | "entity_names_in_scripts", .boolean value => some { config with entityNamesInScripts := value }
  | _, _ => none

/-- The configuration that a document stands for: no name comes twice. -/
def ofDocument? (document : Document) : Option Config :=
  if (document.map (·.1)).Nodup then
    document.foldlM (fun config setting => config.set? setting.1 setting.2) {}
  else none

/-- Reads a configuration and validates it. -/
def ofToml (source : String) : Except ConfigError Config :=
  match (Document.read? source).bind ofDocument? with
  | none => .error .malformed
  | some config => config.validate.map fun () => config

/-- The settings of a configuration as they are written, in order. -/
def settings (config : Config) : Document :=
  [("tick_interval_ms", .integer config.tickInterval.toNat),
    ("enable_effect_commands", .boolean config.effectCommands),
    ("effect_command_token", .text config.commandToken),
    ("log_unbridged_events", .boolean config.logsUnbridged),
    ("entity_names_in_scripts", .boolean config.entityNamesInScripts)]

/-- Writes a configuration by a given way to write documents. -/
def toToml (write : Document.Writer) (config : Config) : Except WriteError String :=
  write config.settings

/-- Whether the configuration is read back from what is written. -/
def rereads (write : Document.Writer) (config : Config) : Except WriteError Bool :=
  (config.toToml write).map fun source =>
    match ofToml source with
    | .ok other => other == config
    | .error _ => false

end ScriptBridge.Config
