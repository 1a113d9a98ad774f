import ScriptBridge.Error
import ScriptBridge.Text.Blank
import ScriptBridge.Text.Quoted
/-!
The configuration of a bridge. Every setting has a default.
-/

namespace ScriptBridge

/-- The settings: the milliseconds of a tick, whether chat lines that begin with the token are run as
effects, that token, whether events without a native counterpart are warned of, and whether scripts may
write entities by name. -/
structure Config where
  tickInterval : UInt64 := 50
  effectCommands : Bool := false
  commandToken : String := "!"
  logsUnbridged : Bool := true
  entityNamesInScripts : Bool := false
deriving DecidableEq, Repr

namespace Config

/-- The whole seconds in the time between ticks. -/
def intervalSeconds (config : Config) : Nat :=
  config.tickInterval.toNat / 1000

/-- The nanoseconds in the time between ticks beyond whole seconds. -/
def intervalNanoseconds (config : Config) : Nat :=
  config.tickInterval.toNat % 1000 * 1000000

/-- Ticks take time, and the token is not blank. The interval is checked first. -/
def validate (config : Config) : Except ConfigError Unit :=
  if config.tickInterval = 0 then .error (.invalid "tick_interval_ms" "must be greater than zero")
  else if (Text.trim config.commandToken.toList).isEmpty then
    .error (.invalid "effect_command_token" "must not be blank")
  else .ok ()

/-- The diagnostic text of a configuration. -/
def debugText (config : Config) : String :=
  "Config \x7b tick_interval_ms: " ++ toString config.tickInterval.toNat
    ++ ", enable_effect_commands: " ++ toString config.effectCommands
    ++ ", effect_command_token: " ++ Text.quoted config.commandToken
    ++ ", log_unbridged_events: " ++ toString config.logsUnbridged
    ++ ", entity_names_in_scripts: " ++ toString config.entityNamesInScripts ++ " \x7d"

end Config

end ScriptBridge
