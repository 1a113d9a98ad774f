import ScriptBridge.Grammar
/-!
The frozen registries: types, wrappers, event values and grammar, every slot resolved.
-/

namespace ScriptBridge

/-- The registries as they are used once registration is over. -/
structure Registries where
  types : TypeRegistry
  values : EventValues
  grammar : Grammar

namespace Registries

/-- The registered wrappers. -/
def wrappers (registries : Registries) : WrapperRegistry :=
  registries.values.wrappers

/-- Freezes the registries: event patterns are resolved first, then effects, then expressions. -/
def freeze (types : TypeRegistry) (wrappers : WrapperRegistry) (getters : GetterTable)
    (grammar : Grammar) : Except RegistrationError Registries := do
  let wrappers ← wrappers.resolve types.slotType
  let values : EventValues := { getters, wrappers }
  let grammar ← grammar.complete types values
  pure { types, values, grammar }

/-- The diagnostic text of the registries. -/
def debugText (registries : Registries) : String :=
  "Registries \x7b types: " ++ toString registries.types.types.length ++ ", wrappers: "
    ++ toString registries.wrappers.entries.length ++ ", syntax: "
    ++ registries.grammar.debugText ++ " \x7d"

end Registries

end ScriptBridge
