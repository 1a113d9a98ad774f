import ScriptBridge.Probe.Wording
import ScriptBridge.Startup
/-!
Registration of probes, one step after the other, and extensions that consist of such steps. A step may
also ask what is registered so far.
-/

namespace ScriptBridge.Probe

/-- One step of registration, or a question. -/
inductive Step where
  | type (probe : TypeProbe)
  | converter (probe : ConverterProbe)
  | wrapper (origin : EventOrigin) (spec : WrapperSpec) (tie : NativeTie)
  | interface (key : TypeKey) (parents : List TypeKey)
  | getter (event values : TypeKey) (read : Getter)
  | effect (probe : EffectProbe) (patterns : List String)
  | expression (probe : ExpressionProbe) (patterns : List String) (returns : TypeKey)
  | handler (key : TypeKey) (probe : HandlerProbe)
  | counts
  | token (key : TypeKey)

/-- How many types, wrappers, entries of the grammar and handlers are registered. -/
structure Counts where
  types : Nat
  wrappers : Nat
  grammar : Nat
  handlers : Nat
deriving DecidableEq, Repr

/-- What a registrar holds. -/
def countsOf (registrar : Registrar) : Counts where
  types := registrar.types.types.length
  wrappers := registrar.wrappers.entries.length
  grammar := registrar.grammar.size
  handlers := registrar.handlers.entries.length

/-- What a step answers. -/
inductive Reply where
  | done
  | token (token : Option HandlerListToken)
  | counts (counts : Counts)

/-- Adds a probed handler to a table. -/
def addHandler (key : TypeKey) (probe : HandlerProbe) (table : HandlerTable Scene) :
    HandlerTable Scene :=
  table.register key probe.info probe.handler

/-- Takes one step. -/
def Step.take (registrar : Registrar) : Step → Except RegistrationError (Registrar × Reply)
  | .type probe =>
    (registrar.types.register probe.info).map fun types => ({ registrar with types }, .done)
  | .converter probe =>
    let types :=
      registrar.types.addConverter probe.source.kind probe.target.kind probe.convert
    .ok ({ registrar with types }, .done)
  | .wrapper origin spec tie =>
    (origin.addTo spec tie registrar.wrappers).map fun wrappers =>
      ({ registrar with wrappers }, .done)
  | .interface key parents =>
    .ok ({ registrar with wrappers := registrar.wrappers.addInterface key parents }, .done)
  | .getter event values read =>
    .ok ({ registrar with getters := registrar.getters.insert (event, values) read }, .done)
  | .effect probe patterns =>
    (probe.addTo patterns registrar.grammar).map fun grammar => ({ registrar with grammar }, .done)
  | .expression probe patterns returns =>
    (probe.addTo patterns returns registrar.grammar).map fun grammar =>
      ({ registrar with grammar }, .done)
  | .handler key probe =>
    let handlers := addHandler key probe registrar.handlers
    .ok ({ registrar with handlers }, .token (handlers.token? key))
  | .counts => .ok (registrar, .counts (countsOf registrar))
  | .token key => .ok (registrar, .token (registrar.handlers.token? key))

/-- What a step comes to: a refused one leaves the registrar as it was. -/
def Step.attempt (registrar : Registrar) (step : Step) :
    Registrar × Except RegistrationError Reply :=
  match step.take registrar with
  | .error error => (registrar, .error error)
  | .ok (registrar, reply) => (registrar, .ok reply)

/-- Takes steps one after the other up to the first one that is refused, or that is none and has only the
name of what is wrong with it. What is refused is told by the kind of the error. -/
def takeAll (registrar : Registrar) : List (Except String Step) → Except String Registrar
  | [] => .ok registrar
  | .error kind :: _ => .error kind
  | .ok step :: rest =>
    match step.take registrar with
    | .error error => .error error.kind
    | .ok (registrar, _) => takeAll registrar rest

/-- An extension that takes steps, adds handlers when the registries are closed, and perhaps fails
then. It writes down both stages. -/
structure ExtensionProbe where
  name : String
  steps : List (Except String Step) := []
  handlers : List (TypeKey × HandlerProbe) := []
  failsLate : Bool := false

/-- The extension itself. A refused step makes it fail under the kind of its error. -/
def ExtensionProbe.extension (probe : ExtensionProbe) : Extension where
  name := probe.name
  register registrar scene :=
    (scene.note (.registering probe.name), (takeAll registrar probe.steps).mapError .noPatterns)
  complete context scene :=
    (scene.note (.sealing probe.name),
      if probe.failsLate then .error (.duplicateType "sealed")
      else
        .ok { context with
          handlers := probe.handlers.foldl
            (fun table handler => addHandler handler.1 handler.2 table) context.handlers })

/-- An extension that does nothing. -/
def bareExtension (name : String) : Extension where
  name
  register registrar scene := (scene, .ok registrar)

end ScriptBridge.Probe
