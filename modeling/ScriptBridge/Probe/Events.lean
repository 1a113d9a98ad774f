import ScriptBridge.Builtins.Events
import ScriptBridge.Probe.Textual
/-!
Probes of events: wrappers around native events that hold one text, and getters for what events hold.
-/

namespace ScriptBridge.Probe

/-- A probed event type; it has no native counterpart if it is only declared. -/
structure EventProbe where
  type : EventType
  native : Option String

/-- An event of the type. -/
def EventProbe.event (probe : EventProbe) (content : String) : Event where
  occurrence := .custom probe.type content

/-- Wraps native events of one type, and takes no others. -/
def wrapping (type : EventType) (native : String) : Wrapping
  | .custom path content => if path = native then some (.custom type content) else none
  | _ => none

/-- Where events of a type come from: the key of the type, and what its events are built from, unless
they are only declared. -/
structure EventOrigin where
  key : TypeKey
  source : Option WrapperSource

/-- Where probed events come from. -/
def EventProbe.origin (probe : EventProbe) : EventOrigin where
  key := .named probe.type.path
  source := probe.native.map fun path => ⟨.named path, wrapping probe.type path⟩

/-- Where the built-in events come from. -/
def builtinOrigins : List EventOrigin :=
  Builtins.events.map fun event => ⟨event.wrapper, event.source⟩

/-- How a wrapper is tied to native events: to those that it is made for, to those of another type, or
without a constructor. -/
inductive NativeTie where
  | own
  | foreign (native : TypeKey)
  | withheld
deriving DecidableEq, Repr

/-- Registers events of a type; those without a native counterpart are declared. -/
def EventOrigin.addTo (origin : EventOrigin) (spec : WrapperSpec) (tie : NativeTie)
    (registry : WrapperRegistry) : Except RegistrationError WrapperRegistry :=
  match origin.source, tie with
  | none, _ => registry.declare spec origin.key
  | some source, .own => registry.register spec origin.key source.native (some source.wrap)
  | some source, .foreign native => registry.register spec origin.key native (some source.wrap)
  | some source, .withheld => registry.register spec origin.key source.native none

/-- What a probed getter answers: the text that the event holds, that text unless it is empty, always
the same text, or nothing. -/
inductive Answer where
  | payload
  | nonEmpty
  | constant (text : String)
  | nothing
deriving DecidableEq, Repr

/-- The text that an event holds. -/
def contentOf (event : Event) : String :=
  match event.occurrence with
  | .custom _ content => content
  | .playerChat _ message => message
  | _ => ""

/-- The text that an answer comes to. -/
def Answer.text? : Answer → Event → Option String
  | .payload, event => some (contentOf event)
  | .nonEmpty, event => if contentOf event = "" then none else some (contentOf event)
  | .constant text, _ => some text
  | .nothing, _ => none

/-- The getter that gives this answer as a value of a type. -/
def Answer.getter (answer : Answer) (type : Textual) : Getter := fun _ event =>
  (answer.text? event).bind type.make?

end ScriptBridge.Probe
