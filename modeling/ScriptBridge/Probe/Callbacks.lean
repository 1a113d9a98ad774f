import ScriptBridge.Bus
import ScriptBridge.Event
/-!
Probes of the bus: callbacks that write down what they get, and then subscribe another callback, publish
another event, or both.
-/

namespace ScriptBridge.Probe

/-- A probed callback: its label, the callback that it subscribes, and the event that it publishes, which
holds a text. -/
inductive Callback where
  | mk (label : String) (subscribes : Option (TypeKey × Callback))
    (publishes : Option (String × String))

/-- What probed callbacks write down. -/
inductive BusNotice where
  | called (label : String) (content : Option String)
  | subscribed (count : Nat)
  | published (called : Nat)
deriving DecidableEq, Repr

/-- What was written down, in order. -/
abbrev BusJournal := List BusNotice

/-- Writes something down. -/
def noteOnBus (notice : BusNotice) (journal : BusJournal) : BusJournal :=
  journal ++ [notice]

/-- How deep publications may nest. -/
def publicationDepth : Nat := 1000

/-- A bus with what the callbacks on it wrote down. -/
abbrev Publications := BusRun NativeEvent BusJournal

/-- Publishes an event; the answer is how many callbacks were called. -/
def Publications.publish (run : Publications) (key : TypeKey) (event : NativeEvent) :
    Option (Nat × Publications) :=
  BusRun.publish publicationDepth key event run

/-- The text of an event, if it is of the type that is listened for. -/
def heardContent (heard : String) : NativeEvent → Option String
  | .custom path content => if path = heard then some content else none
  | _ => none

/-- Publishes the event of a callback. -/
def publishing : Option (String × String) → Reaction NativeEvent BusJournal
  | none => .done
  | some (path, content) =>
    .publish (.named path) (.custom path content) fun called =>
      .act (noteOnBus (.published called)) .done

/-- What a callback does with an event; contents are told of events of the type `heard`. -/
def Callback.reaction (heard : String) : Callback → NativeEvent → Reaction NativeEvent BusJournal
  | .mk label none publishes => fun event =>
    .act (noteOnBus (.called label (heardContent heard event))) (publishing publishes)
  | .mk label (some (key, callback)) publishes =>
    let next := callback.reaction heard
    fun event =>
      .act (noteOnBus (.called label (heardContent heard event)))
        (.subscribe key next
          (.count key fun count => .act (noteOnBus (.subscribed count)) (publishing publishes)))

end ScriptBridge.Probe
