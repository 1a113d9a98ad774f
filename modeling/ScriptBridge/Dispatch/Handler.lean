import ScriptBridge.Scene
/-!
Handlers: callbacks on script events. A handler acts on the state and may set or clear the event's
flag; it ends well, with a fault, or in a panic.
-/

namespace ScriptBridge

/-- What a panic carries: a text, or something that is none. -/
inductive Panic where
  | told (text : String)
  | other
deriving DecidableEq, Repr

/-- The wording of a panic. -/
def Panic.message : Panic → String
  | .told text => text
  | .other => "non-string panic payload"

/-- How a handler ended. -/
inductive Ending where
  | done
  | failed (fault : HandlerFault)
  | panicked (panic : Panic)
deriving DecidableEq, Repr

/-- The error that the end of a named handler amounts to. -/
def Ending.error? (name : String) : Ending → Option HandlerError
  | .done => none
  | .failed fault => some (.failed name fault)
  | .panicked panic => some (.panicked name panic.message)

/-- A callback on script events. -/
abbrev Handler (σ : Type) := Event → σ → Turn σ Ending

/-- When a handler runs, compared with the others on the same event. -/
inductive Priority where
  | lowest
  | low
  | normal
  | high
  | highest
  | monitor
deriving DecidableEq, Repr

namespace Priority

/-- The priorities in the order in which they run. -/
def all : List Priority := [.lowest, .low, .normal, .high, .highest, .monitor]

/-- The place of a priority among all of them. -/
def rank : Priority → Nat
  | .lowest => 0
  | .low => 1
  | .normal => 2
  | .high => 3
  | .highest => 4
  | .monitor => 5

/-- The diagnostic text of a priority. -/
def debugText : Priority → String
  | .lowest => "Lowest"
  | .low => "Low"
  | .normal => "Normal"
  | .high => "High"
  | .highest => "Highest"
  | .monitor => "Monitor"

/-- The priority with a name, in lower case. -/
def ofName? (name : String) : Option Priority :=
  all.find? (Text.lowercase ·.debugText = name)

theorem mem_all (priority : Priority) : priority ∈ all := by
  cases priority <;> decide

end Priority

/-- What is known of a handler: its name, when it runs, and whether it is passed over once the event
is cancelled. -/
structure HandlerMeta where
  name : String := "handler"
  priority : Priority := .normal
  ignoresCancelled : Bool := false
deriving DecidableEq, Repr

/-- The diagnostic text of what is known of a handler. -/
def HandlerMeta.debugText (info : HandlerMeta) : String :=
  "HandlerMeta \x7b name: " ++ Text.quoted info.name ++ ", priority: " ++ info.priority.debugText
    ++ ", ignore_cancelled: " ++ toString info.ignoresCancelled ++ " \x7d"

/-- Restricts a handler to events of one type; all others end well at once. -/
def Handler.only {σ : Type} (key : TypeKey) (handler : Handler σ) : Handler σ :=
  fun event state =>
    if event.key = key then handler event state
    else { cancelled := event.cancelled, state, ending := .done }

/-- Writes down what handlers are called: appends a fixed label, or the name of the event. -/
def Handler.recording (label : Option String) : Handler Scene :=
  fun event scene =>
    { cancelled := event.cancelled
      state := { scene with labels := scene.labels ++ [label.getD event.name] }
      ending := .done }

/-- Counts the calls. -/
def Handler.counting : Handler Scene :=
  fun event scene =>
    { cancelled := event.cancelled
      state := { scene with count := scene.count + 1 }
      ending := .done }

/-- Always fails with the same message. -/
def Handler.failing {σ : Type} (message : String) : Handler σ :=
  fun event state =>
    { cancelled := event.cancelled, state, ending := .failed (.told message) }

end ScriptBridge
