import ScriptBridge.Dispatch.Dispatcher
import ScriptBridge.Parsing.Search
/-!
The phases of registration. A registrar collects types, wrappers, grammar, event values and handlers.
Once it is closed, the registries are frozen and texts can be read with them, but handlers may still
be added. A finished context takes no more registrations.
-/

namespace ScriptBridge

/-- What is being registered. -/
structure Registrar where
  types : TypeRegistry := {}
  wrappers : WrapperRegistry := {}
  grammar : Grammar := {}
  getters : GetterTable := {}
  handlers : HandlerTable Scene := {}

/-- Frozen registries with a handler table that is still open. -/
structure SealedContext where
  registries : Registries
  handlers : HandlerTable Scene

/-- Everything that was registered, for good. -/
structure BridgeContext where
  registries : Registries
  dispatcher : Dispatcher Scene

/-- Closes the registries. -/
def Registrar.close (registrar : Registrar) : Except RegistrationError SealedContext :=
  (Registries.freeze registrar.types registrar.wrappers registrar.getters registrar.grammar).map
    fun registries => { registries, handlers := registrar.handlers }

/-- Closes the handler table. -/
def SealedContext.finish (context : SealedContext) : BridgeContext where
  registries := context.registries
  dispatcher := context.handlers.build context.registries.wrappers

/-- Adds a handler. -/
def SealedContext.addHandler (context : SealedContext) (key : TypeKey) (info : HandlerMeta)
    (handler : Handler Scene) : SealedContext :=
  { context with handlers := context.handlers.register key info handler }

namespace BridgeContext

/-- Dispatches a script event. -/
def dispatch (context : BridgeContext) (event : Event) (scene : Scene) : Dispatching Scene :=
  context.dispatcher.dispatch event scene

/-- The diagnostic text of a context. -/
def debugText (context : BridgeContext) : String :=
  "BridgeContext \x7b registries: " ++ context.registries.debugText ++ ", handlers: "
    ++ toString context.dispatcher.size ++ " \x7d"

end BridgeContext

end ScriptBridge
