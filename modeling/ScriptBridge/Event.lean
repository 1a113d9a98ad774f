import ScriptBridge.Text.Quoted
import ScriptBridge.Value
/-!
Events. The host emits `NativeEvent`s, which know nothing about scripts. Scripts and handlers see an
`Event`: a wrapper around one native event, or an event that only scripts fire. A cancellable event
carries a flag that handlers may set and clear.
-/

namespace ScriptBridge

/-- An event as the host emits it. -/
inductive NativeEvent where
  | playerSpawned (player : EntityRef) (position : Position)
  | playerDisconnected (player : EntityRef) (reason : String)
  | playerSpoke (player : EntityRef) (message : String)
  | custom (path : String) (content : String)

/-- The key of a native event's type. -/
def NativeEvent.key : NativeEvent → TypeKey
  | .playerSpawned .. => .playerSpawned
  | .playerDisconnected .. => .playerDisconnected
  | .playerSpoke .. => .playerSpoke
  | .custom path _ => .named path

/-- A type of script events beyond the built-in ones: its path, the name its events go by, and
whether they can be cancelled. -/
structure EventType where
  path : String
  name : String
  cancellable : Bool
deriving DecidableEq, Repr

/-- What a script event is about. -/
inductive Occurrence where
  | playerJoin (player : EntityRef) (position : Position)
  | playerQuit (player : EntityRef) (reason : String)
  | playerChat (player : EntityRef) (message : String)
  | scriptLoad
  | custom (type : EventType) (content : String)

/-- A script event, with the flag that handlers may set if it is cancellable. -/
structure Event where
  occurrence : Occurrence
  cancelled : Bool := false

namespace Event

/-- The key of the event's type. -/
def key (event : Event) : TypeKey :=
  match event.occurrence with
  | .playerJoin .. => .playerJoin
  | .playerQuit .. => .playerQuit
  | .playerChat .. => .playerChat
  | .scriptLoad => .scriptLoad
  | .custom type _ => .named type.path

/-- The name the event goes by. -/
def name (event : Event) : String :=
  match event.occurrence with
  | .custom type _ => type.name
  | _ => event.key.shortName

/-- Whether handlers may cancel the event. -/
def cancellable (event : Event) : Bool :=
  match event.occurrence with
  | .playerChat .. => true
  | .custom type _ => type.cancellable
  | _ => false

/-- Whether the event has been cancelled. -/
def isCancelled (event : Event) : Bool :=
  event.cancellable && event.cancelled

/-- The event with its flag set or cleared. -/
def withCancelled (event : Event) (cancelled : Bool) : Event :=
  { event with cancelled }

/-- The diagnostic text of an event. -/
def debugText (event : Event) : String :=
  "ScriptEvent \x7b name: " ++ Text.quoted event.name ++ ", cancelled: "
    ++ toString event.isCancelled ++ " \x7d"

@[simp] theorem key_withCancelled (event : Event) (cancelled : Bool) :
    (event.withCancelled cancelled).key = event.key := rfl

@[simp] theorem name_withCancelled (event : Event) (cancelled : Bool) :
    (event.withCancelled cancelled).name = event.name := rfl

@[simp] theorem cancellable_withCancelled (event : Event) (cancelled : Bool) :
    (event.withCancelled cancelled).cancellable = event.cancellable := rfl

end Event

end ScriptBridge
