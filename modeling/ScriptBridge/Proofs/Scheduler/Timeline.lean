import ScriptBridge.Proofs.Scheduler.Soundness
import ScriptBridge.Scheduler.Run
import ScriptBridge.Scene
/-!
Runs of a scheduler keep to their timeline. A host carries out one job after another; these may tick, the
jobs of the tasks may not. Whatever the jobs do, the scheduler and the history stay sound together, unless
a number does not fit a word; so the history is lawful at every moment.
-/

namespace ScriptBridge

open History

variable {σ : Type}

/-- A job that schedules only jobs that never tick, and ticks itself only where it may. -/
def Job.Plain (mayTick : Bool) : Job σ → Prop
  | .done | .panic => True
  | .act _ next => next.Plain mayTick
  | .look next => ∀ state, (next state).Plain mayTick
  | .clock next => ∀ current pending, (next current pending).Plain mayTick
  | .schedule _ _ job next => job.Plain false ∧ ∀ id, (next id).Plain mayTick
  | .cancel _ next | .isQueued _ next => ∀ answer, (next answer).Plain mayTick
  | .tick next => mayTick = true ∧ next.Plain mayTick

/-- A step that comes to an end and keeps what was true. -/
def Keeps (inv : SchedulerRun σ → Prop) (step : RunStep σ) : Prop :=
  ∀ run, inv run → ∃ after ending, step run = some (after, ending) ∧ inv after

/-- What holds of a run in a tick that has yet to look at some tasks. -/
structure Upright (epoch : Nat) (now : UInt64) (left : List TaskId) (run : SchedulerRun σ) :
    Prop where
  plain : ∀ id task, run.scheduler.task? id = some task → task.job.Plain false
  current : run.scheduler.current = now
  sound : .overflowed ∉ run.history → Sound epoch left run.scheduler run.history

namespace Upright

variable {epoch : Nat} {now : UInt64} {left : List TaskId} {run : SchedulerRun σ}

/-- What no longer fits a word ends the timeline. -/
theorem overflowed (plain : ∀ id task, run.scheduler.task? id = some task → task.job.Plain false)
    (current : run.scheduler.current = now) : Upright epoch now left (run.note .overflowed) where
  plain := plain
  current := current
  sound fits := absurd (List.mem_cons_self ..) fits

theorem schedule (upright : Upright epoch now left run) (delay : UInt64) (period : Option UInt64)
    {job : Job σ} (plain : job.Plain false) :
    Upright epoch now left (run.schedule delay period job).1 := by
  rw [SchedulerRun.schedule]
  rcases run.scheduler.schedule_cases delay period job with none_fits | ⟨due, later, queued⟩
  · rw [none_fits]
    exact overflowed upright.plain upright.current
  · rw [queued]
    refine ⟨?_, upright.current, fun fits => ?_⟩
    · intro id task found
      have found : Scheduler.taskIn? id (Scheduler.place _ _ run.scheduler.tasks) = some task := found
      rw [Scheduler.taskIn?_place] at found
      split at found
      · cases found
        exact plain
      · exact upright.plain id task found
    · exact (upright.sound fun before => fits (List.mem_cons_of_mem _ before)).scheduled later

theorem cancel (upright : Upright epoch now left run) (id : TaskId) :
    Upright epoch now left (run.cancel id).1 where
  plain other task found := by
    have found : (run.scheduler.cancel id).1.task? other = some task := found
    rw [Scheduler.task?_cancel] at found
    split at found
    · cases found
    · exact upright.plain other task found
  current := upright.current
  sound fits := (upright.sound fun before => fits (List.mem_cons_of_mem _ before)).cancelled id

theorem isQueued (upright : Upright epoch now left run) (id : TaskId) :
    Upright epoch now left (run.isQueued id).1 where
  plain := upright.plain
  current := upright.current
  sound fits := (upright.sound fun before => fits (List.mem_cons_of_mem _ before)).asked id

end Upright

/-- What holds of a run between ticks. -/
structure Settled (run : SchedulerRun σ) : Prop where
  upright : ∃ epoch now, Upright epoch now [] run
  rested : ∀ id, passed id run.history = clock run.history

namespace Settled

variable {run : SchedulerRun σ}

theorem start (state : σ) : Settled { scheduler := {}, state } where
  upright := by
    refine ⟨0, 0, ?_, rfl, fun _ => .start⟩
    intro id task impossible
    cases impossible
  rested _ := rfl

end Settled

/-- Carries out a host's jobs one after another, whatever becomes of each. -/
def SchedulerRun.carryOut [Journaled σ] (depth : Nat) :
    List (Job σ) → SchedulerRun σ → Option (SchedulerRun σ)
  | [], run => some run
  | job :: jobs, run =>
    (job.run (SchedulerRun.tick depth) run).bind fun (after, _) => after.carryOut depth jobs

end ScriptBridge
