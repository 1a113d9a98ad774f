import ScriptBridge.Probe.Events
import ScriptBridge.Probe.Handlers
import ScriptBridge.Probe.Syntax
import ScriptBridge.Probe.Types
/-!
How probes are worded: short texts for conditions, actions and answers, such as `tag:x` or `fail:why`,
and the names of ways to persist values.
-/

namespace ScriptBridge.Probe

/-- The characters in front of the first colon, and those behind it if there is one. -/
def atColon : List Char → List Char × Option (List Char)
  | [] => ([], none)
  | c :: rest =>
    if c = ':' then ([], some rest)
    else
      let (word, argument) := atColon rest
      (c :: word, argument)

/-- The word of a text in front of its first colon, and what follows. -/
def wordAndArgument (text : String) : String × Option String :=
  let (word, argument) := atColon text.toList
  (String.ofList word, argument.map String.ofList)

/-- The condition that a text stands for; `keyOf?` knows the names of types. -/
def Condition.ofText? (keyOf? : String → Option TypeKey) (text : String) : Option Condition :=
  match wordAndArgument text with
  | ("tag", some tag) => some (.tagged tag)
  | ("notag", some tag) => some (.untagged tag)
  | ("pattern", some number) => number.toNat?.map .pattern
  | ("slot", some slot) => slot.toNat?.map .bound
  | ("noslot", some slot) => slot.toNat?.map .unbound
  | ("event", some name) => (keyOf? name).map .inEvent
  | ("never", none) => some .never
  | _ => none

/-- The action that a text stands for; an unknown one is to do nothing. -/
def Action.ofText (text : String) : Action :=
  match wordAndArgument text with
  | ("record", none) => .record
  | ("count", none) => .count
  | ("cancel", none) => .setCancelled true
  | ("uncancel", none) => .setCancelled false
  | ("panic_str", none) => .panic (.told "static text")
  | ("panic_any", none) => .panic .other
  | ("label", some content) => .label content
  | ("failing", some message) => .failing message
  | ("fail", some message) => .fail message
  | ("panic", some message) => .panic (.told message)
  | _ => .nothing

/-- The answer that a text stands for; an unknown one is none. -/
def Answer.ofText (text : String) : Answer :=
  match wordAndArgument text with
  | ("payload", none) => .payload
  | ("nonempty", none) => .nonEmpty
  | ("const", some content) => .constant content
  | _ => .nothing

/-- The way to persist values with a name. -/
def Persistence.ofName? : String → Option Persistence
  | "plain" => some .plain
  | "blank" => some .blank
  | "inplace" => some .inPlace
  | "writeonly" => some .writeOnly
  | "locked" => some .locked
  | _ => none

/-- The fallback with a name. -/
def Fallback.ofName? : String → Option Fallback
  | "event" => some .eventValue
  | "nothing" => some .nothing
  | _ => none

end ScriptBridge.Probe
