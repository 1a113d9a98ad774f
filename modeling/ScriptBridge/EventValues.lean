import ScriptBridge.Expression
import ScriptBridge.Wrapper.Registry
/-!
Event values: what `the player` means for a given event. Getters belong to an event type or an
interface and to a value type. A value is looked for along the lineage of the event, and the first
getter that has one answers.
-/

namespace ScriptBridge

/-- Restricts a getter to events of one type; all others have no value for it. -/
def Getter.only (key : TypeKey) (getter : Getter) : Getter := fun world event =>
  if event.key = key then getter world event else none

/-- Getters by event type and value type. -/
abbrev GetterTable := Table (TypeKey × TypeKey) Getter

/-- Getters together with the wrappers whose lineages are followed. -/
structure EventValues where
  getters : GetterTable
  wrappers : WrapperRegistry

namespace EventValues

/-- The getters for a value type along the lineage of an event type, nearest first. -/
def gettersFor (values : EventValues) (event type : TypeKey) : List Getter :=
  (values.wrappers.lineage event).filterMap fun key => values.getters.get? (key, type)

/-- The value of a type that an event has. -/
def get? (values : EventValues) (type : TypeKey) : Getter := fun world event =>
  (values.gettersFor event.key type).findSome? (· world event)

/-- Whether events of a type may have a value of a type. -/
def provides (values : EventValues) (event type : TypeKey) : Bool :=
  (values.wrappers.lineage event).any fun key => values.getters.contains (key, type)

/-- The expression for the value of a type that the ambient event has, if it may have one. -/
def expression? (values : EventValues) (ambient : Option TypeKey) (type : TypeKey) (name : String) :
    Option Expression :=
  match ambient with
  | none => none
  | some event =>
    if values.provides event type then some (.eventValue type name (values.get? type)) else none

/-- The diagnostic text of event values. -/
def debugText (values : EventValues) : String :=
  "EventValues \x7b getters: " ++ toString values.getters.size ++ " \x7d"

end EventValues

end ScriptBridge
