import ScriptBridge.Dispatch.Handler
/-!
Probes of handlers: handlers that write down each event they get, and then do one thing.
-/

namespace ScriptBridge.Probe

/-- What a probed handler does. The first four write nothing down themselves, and take events of every
type. -/
inductive Action where
  | record
  | label (text : String)
  | count
  | failing (message : String)
  | nothing
  | setCancelled (cancelled : Bool)
  | fail (message : String)
  | panic (load : Panic)
deriving DecidableEq, Repr

/-- Writes an event down and then goes on with it. -/
def noting (name : String) (handler : Handler Scene) : Handler Scene := fun event scene =>
  handler event (scene.note (.handled name event.name event.isCancelled))

/-- Leaves the event and the scene alone. -/
def endingWith (ending : Ending) : Handler Scene := fun event scene =>
  { cancelled := event.cancelled, state := scene, ending }

/-- Sets or clears the flag of an event that has one. -/
def settingFlag (cancelled : Bool) : Handler Scene := fun event scene =>
  { cancelled := if event.cancellable then cancelled else event.cancelled
    state := scene
    ending := .done }

/-- A handler that writes down events, perhaps only those of one type, and then goes on with them. -/
def notingOnly (only : Option TypeKey) (name : String) (handler : Handler Scene) : Handler Scene :=
  match only with
  | none => noting name handler
  | some key => Handler.only key (noting name handler)

/-- The handler that does this. -/
def Action.handler (only : Option TypeKey) (name : String) : Action → Handler Scene
  | .record => .recording none
  | .label text => .recording (some text)
  | .count => .counting
  | .failing message => .failing message
  | .nothing => notingOnly only name (endingWith .done)
  | .setCancelled cancelled => notingOnly only name (settingFlag cancelled)
  | .fail message => notingOnly only name (endingWith (.failed (.told message)))
  | .panic load => notingOnly only name (endingWith (.panicked load))

/-- A probed handler; what it writes down may be only events of one type. -/
structure HandlerProbe where
  name : String
  priority : Priority := .normal
  ignoresCancelled : Bool := false
  action : Action := .nothing
  only : Option TypeKey := none

/-- What is known of the handler; without a name it goes by the usual one. -/
def HandlerProbe.info (probe : HandlerProbe) : HandlerMeta :=
  let unnamed : HandlerMeta :=
    { priority := probe.priority, ignoresCancelled := probe.ignoresCancelled }
  if probe.name = "" then unnamed else { unnamed with name := probe.name }

/-- The handler itself. -/
def HandlerProbe.handler (probe : HandlerProbe) : Handler Scene :=
  probe.action.handler probe.only probe.name

end ScriptBridge.Probe
