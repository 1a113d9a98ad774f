import ScriptBridge.Builtins.Commands
import ScriptBridge.Builtins.Effects
import ScriptBridge.Builtins.Expressions
import ScriptBridge.Builtins.Types
/-!
The built-in vocabulary as a whole: its types, events, event values, expressions and effects, and
effect commands if there is a token for them.
-/

namespace ScriptBridge.Builtins

/-- How the vocabulary is set up: whether entities are written by name in scripts, and the token of
effect commands. -/
structure Options where
  entityNamesInScripts : Bool := false
  commandToken : Option String := none
deriving DecidableEq, Repr

/-- Registers the vocabulary: types, events, their values, expressions, and effects last. -/
def Options.register (options : Options) (registrar : Registrar) :
    Except RegistrationError Registrar := do
  let types ← addTypes registrar.types options.entityNamesInScripts
  let wrappers ← addEvents registrar.wrappers
  let getters := addGetters registrar.getters
  let grammar ← addExpressions registrar.grammar
  let grammar ← addEffects grammar
  pure { registrar with types, wrappers, getters, grammar }

/-- Adds the handler for effect commands, which needs the frozen registries. -/
def Options.addCommands (options : Options) (context : SealedContext) : SealedContext :=
  match options.commandToken with
  | none => context
  | some token =>
    let commands : EffectCommands := { registries := context.registries, token }
    context.addHandler .playerChat EffectCommands.handlerMeta commands.handler

end ScriptBridge.Builtins
