import ScriptBridge.Proofs.Scheduler.Timeline
/-!
Ticks inside ticks. A job may tick in turn, so in the middle of a run several ticks are under way, each
with tasks that it has yet to look at. An invariant of such runs is stated for the ticks under way,
innermost first. If each thing that can happen keeps it, every run that comes to an end keeps it, whatever
the jobs do and however deep ticks nest.
-/

namespace ScriptBridge

open History

variable {σ : Type}

/-- A tick under way: its number, counted without bound, the same as a word, and the tasks that it has
yet to look at. -/
structure OpenTick where
  number : Nat
  now : UInt64
  left : List TaskId

/-- A run in which a tick has just begun. -/
def SchedulerRun.beginTick (run : SchedulerRun σ) : SchedulerRun σ :=
  { run with scheduler := { run.scheduler with current := run.scheduler.current + 1 } }.note .ticked

/-- What stays true of a run with its ticks under way, whatever happens next. -/
structure NestingInvariant (inv : List OpenTick → SchedulerRun σ → Prop) : Prop where
  act {ticks : List OpenTick} {run : SchedulerRun σ} (state : σ) :
    inv ticks run → inv ticks { run with state }
  schedule {ticks : List OpenTick} {run : SchedulerRun σ} (delay : UInt64) (period : Option UInt64)
    (job : Job σ) : inv ticks run → inv ticks (run.schedule delay period job).1
  cancel {ticks : List OpenTick} {run : SchedulerRun σ} (id : TaskId) :
    inv ticks run → inv ticks (run.cancel id).1
  isQueued {ticks : List OpenTick} {run : SchedulerRun σ} (id : TaskId) :
    inv ticks run → inv ticks (run.isQueued id).1
  cameRound {ticks : List OpenTick} {run : SchedulerRun σ}
    (last : laterTick? run.scheduler.current 1 = none) :
    inv ticks run → inv ticks (run.beginTick.note .ended)
  begun {ticks : List OpenTick} {run : SchedulerRun σ} {now : UInt64}
    (next : laterTick? run.scheduler.current 1 = some now) :
    inv ticks run →
      inv (⟨clock run.history + 1, now, run.scheduler.dueBy now⟩ :: ticks) run.beginTick
  gone {ticks : List OpenTick} {run : SchedulerRun σ} {number : Nat} {now : UInt64} {id : TaskId}
    {left : List TaskId} (missing : run.scheduler.task? id = none) :
    inv (⟨number, now, id :: left⟩ :: ticks) run → inv (⟨number, now, left⟩ :: ticks) run
  overflowed {ticks : List OpenTick} {run : SchedulerRun σ} :
    inv ticks run → inv ticks (run.note .overflowed)
  started {ticks : List OpenTick} {run : SchedulerRun σ} {number : Nat} {now : UInt64} {id : TaskId}
    {left : List TaskId} {task : Task σ} {after : Scheduler σ}
    (found : run.scheduler.task? id = some task)
    (taken : Scheduler.TurnTaken now id task run.scheduler after) :
    inv (⟨number, now, id :: left⟩ :: ticks) run →
      inv (⟨number, now, left⟩ :: ticks) ({ run with scheduler := after }.note (.started id task.job))
  ended {ticks : List OpenTick} {run : SchedulerRun σ} {tick : OpenTick} :
    inv (tick :: ticks) run → inv ticks (run.note .ended)

/-- A step that keeps what was true whenever it comes to an end. -/
def Preserves (inv : SchedulerRun σ → Prop) (step : RunStep σ) : Prop :=
  ∀ {run after : SchedulerRun σ} {ending : RunEnd},
    inv run → step run = some (after, ending) → inv after

namespace NestingInvariant

variable {inv : List OpenTick → SchedulerRun σ → Prop} {ticks : List OpenTick}

/-- A job keeps the invariant if the ticks that it makes do. -/
theorem run_preserves (invariant : NestingInvariant inv) {tick : RunStep σ}
    (keeps : Preserves (inv ticks) tick) (job : Job σ) : Preserves (inv ticks) (job.run tick) := by
  induction job with
  | done =>
      intro run after ending holds ran
      cases ran
      exact holds
  | panic =>
      intro run after ending holds ran
      cases ran
      exact holds
  | act change next ih =>
      intro run after ending holds ran
      exact ih (invariant.act (change run.state) holds) ran
  | look next ih =>
      intro run after ending holds ran
      exact ih run.state holds ran
  | clock next ih =>
      intro run after ending holds ran
      exact ih _ _ holds ran
  | schedule delay period job next _ ih =>
      intro run after ending holds ran
      have scheduled := invariant.schedule delay period job holds
      rw [Job.run] at ran
      cases answer : run.schedule delay period job with
      | mk later given =>
          rw [answer] at ran scheduled
          cases given with
          | none =>
              cases ran
              exact scheduled
          | some id => exact ih id scheduled ran
  | cancel id next ih =>
      intro run after ending holds ran
      exact ih _ (invariant.cancel id holds) ran
  | isQueued id next ih =>
      intro run after ending holds ran
      exact ih _ (invariant.isQueued id holds) ran
  | tick next ih =>
      intro run after ending holds ran
      rw [Job.run] at ran
      cases ticked : tick run with
      | none =>
          rw [ticked] at ran
          cases ran
      | some outcome =>
          obtain ⟨later, ended⟩ := outcome
          have holds_later := keeps holds ticked
          rw [ticked] at ran
          cases ended with
          | finished => exact ih holds_later ran
          | panicked =>
              cases ran
              exact holds_later

variable [Journaled σ]

/-- The rest of a tick keeps the invariant, up to the tasks that it did not come to look at. -/
theorem runDue_preserves (invariant : NestingInvariant inv) {tick : RunStep σ}
    (keeps : ∀ ticks, Preserves (inv ticks) tick) {number : Nat} {now : UInt64} {left : List TaskId}
    {run after : SchedulerRun σ} {ending : RunEnd}
    (holds : inv (⟨number, now, left⟩ :: ticks) run)
    (ran : SchedulerRun.runDue tick now left run = some (after, ending)) :
    ∃ rest, inv (⟨number, now, rest⟩ :: ticks) after := by
  induction left generalizing run with
  | nil =>
      cases ran
      exact ⟨[], holds⟩
  | cons id left ih =>
      rw [SchedulerRun.runDue] at ran
      rcases run.scheduler.takeTurn_cases now id with
        ⟨missing, gone⟩ | overflow | ⟨task, begun, found, start, taken⟩
      · rw [gone] at ran
        exact ih (invariant.gone missing holds) ran
      · rw [overflow] at ran
        cases ran
        exact ⟨id :: left, invariant.overflowed holds⟩
      · rw [start] at ran
        have started := invariant.started found taken holds
        cases jobRan : task.job.run tick
            ({ run with scheduler := begun }.note (.started id task.job)) with
        | none =>
            simp only [jobRan] at ran
            cases ran
        | some outcome =>
            obtain ⟨later, ended⟩ := outcome
            have holds_later := invariant.run_preserves (keeps _) task.job started jobRan
            simp only [jobRan] at ran
            cases ended with
            | finished => exact ih holds_later ran
            | panicked => exact ih (invariant.act _ holds_later) ran

/-- A tick keeps the invariant for the ticks around it, however deep ticks nest in it. -/
theorem tick_preserves (invariant : NestingInvariant inv) (depth : Nat) (ticks : List OpenTick) :
    Preserves (inv ticks) (SchedulerRun.tick depth) := by
  induction depth generalizing ticks with
  | zero =>
      intro run after ending holds ran
      cases ran
  | succ depth ih =>
      intro run after ending holds ran
      rw [SchedulerRun.tick] at ran
      obtain ⟨⟨last, ended⟩, outcome, shape⟩ := Option.map_eq_some_iff.1 ran
      cases shape
      cases next : laterTick? run.scheduler.current 1 with
      | none =>
          simp only [next] at outcome
          cases outcome
          exact invariant.cameRound next holds
      | some now =>
          simp only [next] at outcome
          obtain ⟨rest, holds_last⟩ := invariant.runDue_preserves ih (invariant.begun next holds) outcome
          exact invariant.ended holds_last

/-- A host's jobs keep the invariant, one after another. -/
theorem carryOut_preserves (invariant : NestingInvariant inv) {depth : Nat} {jobs : List (Job σ)}
    {run after : SchedulerRun σ} (holds : inv [] run)
    (ran : SchedulerRun.carryOut depth jobs run = some after) : inv [] after := by
  induction jobs generalizing run with
  | nil =>
      cases ran
      exact holds
  | cons job jobs ih =>
      rw [SchedulerRun.carryOut] at ran
      obtain ⟨⟨later, ending⟩, jobRan, ran⟩ := Option.bind_eq_some_iff.1 ran
      exact ih (invariant.run_preserves (invariant.tick_preserves depth []) job holds jobRan) ran

end NestingInvariant

end ScriptBridge
