import ScriptBridge.Match
import ScriptBridge.Scheduler.Job
/-!
Notices: what is written down as things happen. A warning belongs to a channel and has a message and
named details; the other notices say what was done to the host's entities and what watched parts of a
program went through.
-/

namespace ScriptBridge

/-- A warning about something that went wrong without stopping anything else. -/
inductive Warning where
  | handlerFailed (event : String) (error : HandlerError)
  | unbridged (wrapper : String)
  | alreadyBridged (wrapper : String) (native owner : TypeKey)
  | rejected (wrapper : TypeKey)
  | taskPanicked (task : TaskId)
  | tickerReplaced
  | lineSkipped (error : ScriptError)
  | effectFailed (trigger effect : String) (error : EvalError)
  | scriptLoadFailed (error : HandlerError)

namespace Warning

/-- The channel that a warning goes to. -/
def channel : Warning → String
  | .handlerFailed .. => "spindle::dispatch"
  | .unbridged .. => "spindle::bridge"
  | .alreadyBridged .. => "spindle::bridge"
  | .rejected .. => "spindle::bridge"
  | .taskPanicked .. => "spindle::scheduler"
  | .tickerReplaced => "spindle::scheduler"
  | .lineSkipped .. => "spindle::script"
  | .effectFailed .. => "spindle::script"
  | .scriptLoadFailed .. => "spindle::startup"

/-- The wording of a warning. -/
def message : Warning → String
  | .handlerFailed .. => "handler failed"
  | .unbridged .. => "event has no native constructor; it will only fire from scripts"
  | .alreadyBridged .. => "native event already bridged by another wrapper; skipping"
  | .rejected .. => "constructor rejected a native event"
  | .taskPanicked .. => "task panicked"
  | .tickerReplaced => "ticker re-initialized; replacing callback"
  | .lineSkipped .. => "skipped script line"
  | .effectFailed .. => "effect failed"
  | .scriptLoadFailed .. => "script load handler failed"

/-- The named details of a warning. -/
def details : Warning → List (String × String)
  | .handlerFailed event error => [("event", event), ("error", error.message)]
  | .unbridged wrapper => [("wrapper", wrapper)]
  | .alreadyBridged wrapper native owner =>
    [("wrapper", wrapper), ("native", native.shortName), ("owner", owner.shortName)]
  | .rejected wrapper => [("wrapper", wrapper.shortName)]
  | .taskPanicked task => [("id", task.debugText)]
  | .tickerReplaced => []
  | .lineSkipped error => [("error", error.message)]
  | .effectFailed trigger effect error =>
    [("trigger", trigger), ("effect", effect), ("error", error.message)]
  | .scriptLoadFailed error => [("failure", error.message)]

end Warning

/-- What happened: a warning, a message or a move that reached the host, an attempt to build a watched
effect, the run of a watched effect or handler, a stage of a watched extension, or a scheduled effect
that failed. -/
inductive Notice where
  | warning (warning : Warning)
  | message (recipient : EntityRef) (text : String)
  | teleport (entity : EntityRef) (destination : Position) (accepted : Bool)
  | attempt (effect : String) (found : Match) (accepted : Bool)
  | performed (effect : String) (slots : List (Option (List Value)))
  | handled (handler event : String) (cancelled : Bool)
  | registering (extension : String)
  | sealing (extension : String)
  | taskFailed (error : EvalError)

/-- A state in which warnings are written down. -/
class Journaled (σ : Type) where
  /-- Writes a warning down. -/
  warn : Warning → σ → σ

end ScriptBridge
