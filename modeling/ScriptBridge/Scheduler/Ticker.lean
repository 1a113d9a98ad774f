import ScriptBridge.Scheduler.Run
/-!
A ticker that is advanced by hand. Until something is attached to it, advancing does nothing; what is
attached is a job, usually one that ticks a scheduler, and may be preceded by a job of the host's own.
-/

namespace ScriptBridge

/-- A ticker with the job that each advance does. -/
structure ManualTicker (σ : Type) where
  attached : Option (Job σ) := none

namespace ManualTicker

variable {σ : Type} [Journaled σ]

/-- Attaches a job; replacing an earlier one is warned of. -/
def attach (ticker : ManualTicker σ) (job : Job σ) (state : σ) : ManualTicker σ × σ :=
  (⟨some job⟩, if ticker.attached.isSome then Journaled.warn .tickerReplaced state else state)

/-- Attaches a job that is preceded by a hook on each advance. -/
def attachBehind (ticker : ManualTicker σ) (hook job : Job σ) (state : σ) : ManualTicker σ × σ :=
  ticker.attach (hook.andThen job) state

/-- Does the attached job once, where ticks may nest `depth` deep; the answer says how it ended, if there
was one. -/
def advance (ticker : ManualTicker σ) (depth : Nat) (run : SchedulerRun σ) :
    Option (SchedulerRun σ × Option RunEnd) :=
  match ticker.attached with
  | none => some (run, none)
  | some job =>
    (job.run (SchedulerRun.tick depth) run).map fun (after, ending) => (after, some ending)

/-- Advances a number of times until a job panics, or not at all if nothing is attached. -/
def advanceBy (ticker : ManualTicker σ) (depth : Nat) : Nat → RunStep σ
  | 0, run => some (run, .finished)
  | count + 1, run =>
    match ticker.advance depth run with
    | none => none
    | some (after, none) => some (after, .finished)
    | some (after, some .finished) => ticker.advanceBy depth count after
    | some (after, some .panicked) => some (after, .panicked)

end ManualTicker

end ScriptBridge
