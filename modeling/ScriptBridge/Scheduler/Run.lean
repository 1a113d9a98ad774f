import ScriptBridge.Notice
import ScriptBridge.Scheduler.Basic
/-!
Runs of a scheduler: jobs that are carried out, and ticks. A tick takes note of the tasks that are due
when it begins and then gives each its turn, unless it is gone by then. A panic ends the job that it
arises in and no more, with a warning; what is counted beyond the greatest word is a panic of the job
or tick that counts. Since a job may tick in turn, `SchedulerRun.tick` counts how deep ticks nest and
has no answer beyond the given bound. A run keeps the moments of its tasks.
-/

namespace ScriptBridge

/-- One thing that happens in a run: a task is scheduled, or would be due beyond the greatest word; a
task is cancelled or asked for, with the answer; a tick begins, as the clock advances; a task starts its
job; a tick ends. -/
inductive Moment (σ : Type) where
  | scheduled (id : TaskId) (delay : UInt64) (period : Option UInt64) (job : Job σ)
  | overflowed
  | cancelled (id : TaskId) (found : Bool)
  | asked (id : TaskId) (queued : Bool)
  | ticked
  | started (id : TaskId) (job : Job σ)
  | ended

/-- A scheduler with the state its tasks act on, and what has happened so far, latest first. -/
structure SchedulerRun (σ : Type) where
  scheduler : Scheduler σ
  state : σ
  history : List (Moment σ) := []

/-- How a job or a tick ended. -/
inductive RunEnd where
  | finished
  | panicked
deriving DecidableEq, Repr

/-- Takes a run further, unless ticks nest too deep. What was done up to a panic stays done. -/
abbrev RunStep (σ : Type) := SchedulerRun σ → Option (SchedulerRun σ × RunEnd)

namespace SchedulerRun

variable {σ : Type}

/-- Keeps a moment. -/
def note (run : SchedulerRun σ) (moment : Moment σ) : SchedulerRun σ :=
  { run with history := moment :: run.history }

/-- Schedules a job, repeating if there is a period. -/
def schedule (run : SchedulerRun σ) (delay : UInt64) (period : Option UInt64) (job : Job σ) :
    SchedulerRun σ × Option TaskId :=
  match run.scheduler.schedule delay period job with
  | (scheduler, none) => ({ run with scheduler }.note .overflowed, none)
  | (scheduler, some id) => ({ run with scheduler }.note (.scheduled id delay period job), some id)

/-- Takes a task off the queue; the answer says whether it was there. -/
def cancel (run : SchedulerRun σ) (id : TaskId) : SchedulerRun σ × Bool :=
  let (scheduler, found) := run.scheduler.cancel id
  ({ run with scheduler }.note (.cancelled id found), found)

/-- Whether a task will still run. -/
def isQueued (run : SchedulerRun σ) (id : TaskId) : SchedulerRun σ × Bool :=
  let queued := run.scheduler.isQueued id
  (run.note (.asked id queued), queued)

end SchedulerRun

namespace Job

variable {σ : Type}

/-- Carries a job out, ticking by the given means. -/
def run (tick : RunStep σ) : Job σ → RunStep σ
  | .done, current => some (current, .finished)
  | .panic, current => some (current, .panicked)
  | .act change next, current => run tick next { current with state := change current.state }
  | .look next, current => run tick (next current.state) current
  | .clock next, current =>
    run tick (next current.scheduler.current current.scheduler.pending) current
  | .schedule delay period job next, current =>
    match current.schedule delay period job with
    | (after, none) => some (after, .panicked)
    | (after, some id) => run tick (next id) after
  | .cancel id next, current =>
    let (after, found) := current.cancel id
    run tick (next found) after
  | .isQueued id next, current =>
    let (after, queued) := current.isQueued id
    run tick (next queued) after
  | .tick next, current =>
    match tick current with
    | none => none
    | some (after, .finished) => run tick next after
    | some (after, .panicked) => some (after, .panicked)

end Job

namespace SchedulerRun

variable {σ : Type} [Journaled σ]

/-- Gives the listed tasks their turns in a tick. A panic ends a job but not the tick; a next turn that
is too late for a word ends the tick. -/
def runDue (tick : RunStep σ) (now : UInt64) : List TaskId → RunStep σ
  | [], current => some (current, .finished)
  | id :: rest, current =>
    match current.scheduler.takeTurn now id with
    | .gone => runDue tick now rest current
    | .overflow => some (current.note .overflowed, .panicked)
    | .start scheduler job =>
      match job.run tick ({ current with scheduler }.note (.started id job)) with
      | none => none
      | some (after, .finished) => runDue tick now rest after
      | some (after, .panicked) =>
        runDue tick now rest
          { after with state := Journaled.warn (.taskPanicked id) after.state }

/-- Advances the clock by one tick, where ticks may nest `depth` deep. -/
def tick : Nat → RunStep σ
  | 0, _ => none
  | depth + 1, current =>
    let scheduler := current.scheduler
    let begun :=
      { current with scheduler := { scheduler with current := scheduler.current + 1 } }.note .ticked
    let outcome : Option (SchedulerRun σ × RunEnd) :=
      match laterTick? scheduler.current 1 with
      | none => some (begun, .panicked)
      | some now => runDue (tick depth) now (scheduler.dueBy now) begun
    outcome.map fun (after, ending) => (after.note .ended, ending)

end SchedulerRun

end ScriptBridge
