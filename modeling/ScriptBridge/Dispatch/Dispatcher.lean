import ScriptBridge.Dispatch.Handler
import ScriptBridge.Wrapper.Registry
/-!
The dispatcher. Handlers are registered for the key of an event type or an interface. Dispatching an
event runs the handlers registered for any key in its lineage, by priority and then in the order of
registration. A handler that fails or panics stops none of the others. A handler is known by its place
in the order of registration, and the places that a registered wrapper's events go through are found
when the dispatcher is built.
-/

namespace ScriptBridge

/-- A registered handler. -/
structure HandlerEntry (σ : Type) where
  key : TypeKey
  handler : Handler σ
  info : HandlerMeta

/-- The registered handlers in order. -/
structure HandlerTable (σ : Type) where
  entries : List (HandlerEntry σ) := []

/-- The number of a key among those that handlers were registered for, in the order in which they
first came. -/
structure HandlerListToken where
  number : Nat
deriving DecidableEq, Repr

/-- The diagnostic text of a token. -/
def HandlerListToken.debugText (token : HandlerListToken) : String :=
  "HandlerListToken(" ++ toString token.number ++ ")"

namespace HandlerTable

variable {σ : Type}

/-- The token of a key, if a handler is registered for it. -/
def token? (table : HandlerTable σ) (key : TypeKey) : Option HandlerListToken :=
  ((table.entries.map HandlerEntry.key).eraseDups.findIdx? (· = key)).map HandlerListToken.mk

/-- Registers a handler for a key. -/
def register (table : HandlerTable σ) (key : TypeKey) (info : HandlerMeta) (handler : Handler σ) :
    HandlerTable σ :=
  ⟨table.entries ++ [⟨key, handler, info⟩]⟩

/-- The places of the handlers that are registered for a key, in order. -/
def placesOf (table : HandlerTable σ) (key : TypeKey) : List Nat :=
  (table.entries.zipIdx.filter (·.1.key = key)).map (·.2)

/-- The rank of the priority of the handler at a place. -/
def rankAt (table : HandlerTable σ) (place : Nat) : Nat :=
  match table.entries[place]? with
  | none => 0
  | some entry => entry.info.priority.rank

/-- Whether the handler at one place runs before the one at another, or is the same: by priority, and
within one priority in the order of registration. -/
def runsNoLater (table : HandlerTable σ) (place other : Nat) : Bool :=
  table.rankAt place < table.rankAt other
    || (table.rankAt place = table.rankAt other && place ≤ other)

/-- The places of the handlers for a lineage, in the order in which they run. -/
def runningOrder (table : HandlerTable σ) (lineage : List TypeKey) : List Nat :=
  ((lineage.flatMap table.placesOf).mergeSort table.runsNoLater).eraseReps

end HandlerTable

/-- What one dispatch came to: how many handlers ran, how many were passed over because the event was
cancelled, and the failures in the order in which they arose. -/
structure DispatchReport where
  invoked : Nat := 0
  skipped : Nat := 0
  failures : List HandlerError := []
deriving DecidableEq, Repr

/-- Whether no handler failed. -/
def DispatchReport.isOk (report : DispatchReport) : Bool :=
  report.failures.isEmpty

/-- A dispatch under way: the report so far, the event with its flag, and the state. -/
structure Dispatching (σ : Type) where
  report : DispatchReport
  event : Event
  state : σ

/-- The frozen handlers, with the running order for each registered wrapper. -/
structure Dispatcher (σ : Type) where
  table : HandlerTable σ
  resolved : Table TypeKey (List Nat)

/-- Freezes the handlers; the running order of every registered wrapper is found from its lineage. -/
def HandlerTable.build {σ : Type} (table : HandlerTable σ) (wrappers : WrapperRegistry) :
    Dispatcher σ where
  table
  resolved :=
    wrappers.entries.foldl
      (fun resolved entry =>
        resolved.insert entry.wrapper (table.runningOrder (wrappers.lineage entry.wrapper)))
      {}

namespace Dispatcher

variable {σ : Type}

/-- The places of the handlers for events of a type, in the order in which they run. An event type that
is no registered wrapper has only the handlers for itself. -/
def placesFor (dispatcher : Dispatcher σ) (key : TypeKey) : List Nat :=
  match dispatcher.resolved.get? key with
  | some places => places
  | none => dispatcher.table.runningOrder [key]

/-- The handlers for events of a type, in the order in which they run. -/
def handlersFor (dispatcher : Dispatcher σ) (key : TypeKey) : List (HandlerEntry σ) :=
  (dispatcher.placesFor key).filterMap (dispatcher.table.entries[·]?)

/-- The number of handlers for events of a type. -/
def handlerCount (dispatcher : Dispatcher σ) (key : TypeKey) : Nat :=
  match dispatcher.resolved.get? key with
  | some places => places.length
  | none => (dispatcher.table.placesOf key).length

/-- The number of handlers. -/
def size (dispatcher : Dispatcher σ) : Nat :=
  dispatcher.table.entries.length

/-- The diagnostic text of a dispatcher. -/
def debugText (dispatcher : Dispatcher σ) : String :=
  "[" ++ ", ".intercalate (dispatcher.table.entries.map fun entry =>
    "(" ++ entry.key.debugText ++ ", " ++ entry.info.debugText ++ ")") ++ "]"

variable [Journaled σ]

/-- Lets one handler have the event. -/
def runEntry (dispatching : Dispatching σ) (entry : HandlerEntry σ) : Dispatching σ :=
  let event := dispatching.event
  let report := dispatching.report
  if entry.info.ignoresCancelled && event.isCancelled then
    { dispatching with report := { report with skipped := report.skipped + 1 } }
  else
    let turn := entry.handler event dispatching.state
    let report := { report with invoked := report.invoked + 1 }
    let event := event.withCancelled turn.cancelled
    match turn.ending.error? entry.info.name with
    | none => { report, event, state := turn.state }
    | some error =>
      { report := { report with failures := report.failures ++ [error] }
        event
        state := Journaled.warn (.handlerFailed event.name error) turn.state }

/-- Dispatches an event to its handlers. -/
def dispatch (dispatcher : Dispatcher σ) (event : Event) (state : σ) : Dispatching σ :=
  (dispatcher.handlersFor event.key).foldl runEntry { report := {}, event, state }

end Dispatcher

end ScriptBridge
