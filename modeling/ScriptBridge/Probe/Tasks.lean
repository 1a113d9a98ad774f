import ScriptBridge.Scheduler.Ticker
import ScriptBridge.Scene
import ScriptBridge.Table
/-!
Probes of the scheduler: tasks that go by names, write down their turns, and then schedule, cancel and
ask for other tasks, tick, or panic; and tasks that perform an effect.
-/

namespace ScriptBridge.Probe

/-- What a probed task does. -/
inductive TaskAct where
  | cancel (name : String)
  | queued (name : String)
  | schedule (name : String) (delay : UInt64) (period : Option UInt64) (acts : List TaskAct)
  | tick
  | panic

/-- What probed tasks write down; there is no answer about a task that was never scheduled. -/
inductive TaskNotice where
  | turn (name : String) (current : UInt64) (pending : Nat)
  | cancelled (found : Option Bool)
  | queued (found : Option Bool)
  | scheduled (id : TaskId)
  | hook
  | warning (warning : Warning)

/-- The latest task of each name, and what was written down. -/
structure TaskBoard where
  names : Table String TaskId := {}
  journal : List TaskNotice := []

namespace TaskBoard

/-- Writes something down. -/
def note (notice : TaskNotice) (board : TaskBoard) : TaskBoard :=
  { board with journal := board.journal ++ [notice] }

instance : Journaled TaskBoard where
  warn warning board := board.note (.warning warning)

/-- Gives a task a name, in place of an earlier task of that name. -/
def remember (name : String) (id : TaskId) (board : TaskBoard) : TaskBoard :=
  { board with names := board.names.insert name id }

end TaskBoard

open TaskBoard

/-- The job that writes down a turn and then goes on. -/
def turnJob (name : String) (next : Job TaskBoard) : Job TaskBoard :=
  .clock fun current pending => .act (note (.turn name current pending)) next

/-- The job that does these acts in order. -/
def actsJob : List TaskAct → Job TaskBoard
  | [] => .done
  | .cancel name :: rest =>
    let next := actsJob rest
    .look fun board =>
      match board.names.get? name with
      | none => .act (note (.cancelled none)) next
      | some id => .cancel id fun found => .act (note (.cancelled (some found))) next
  | .queued name :: rest =>
    let next := actsJob rest
    .look fun board =>
      match board.names.get? name with
      | none => .act (note (.queued none)) next
      | some id => .isQueued id fun found => .act (note (.queued (some found))) next
  | .schedule name delay period acts :: rest =>
    let next := actsJob rest
    .schedule delay period (turnJob name (actsJob acts)) fun id =>
      .act (fun board => (board.remember name id).note (.scheduled id)) next
  | .tick :: rest => .tick (actsJob rest)
  | .panic :: _ => .panic

/-- Schedules a named task. The name stays with an earlier task if there is no new one. -/
def scheduleNamed (name : String) (delay : UInt64) (period : Option UInt64) (acts : List TaskAct)
    (run : SchedulerRun TaskBoard) : SchedulerRun TaskBoard × Option TaskId :=
  match run.schedule delay period (turnJob name (actsJob acts)) with
  | (run, none) => (run, none)
  | (run, some id) => ({ run with state := run.state.remember name id }, some id)

/-- Performs an effect on the event kept at a place, and writes down if it fails. -/
def performOnHeld (effect : Effect) (place : Nat) (scene : Scene) : Scene :=
  match scene.heldAt? place with
  | none => scene
  | some event =>
    let turn := effect.perform event scene
    let scene := turn.state.setHeldFlag place turn.cancelled
    match turn.ending with
    | .ok () => scene
    | .error error => scene.note (.taskFailed error)

/-- The job that performs an effect on the event kept at a place. -/
def effectJob (effect : Effect) (place : Nat) : Job Scene :=
  .act (performOnHeld effect place) .done

end ScriptBridge.Probe
