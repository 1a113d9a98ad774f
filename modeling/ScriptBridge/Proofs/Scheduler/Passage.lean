import ScriptBridge.Proofs.Scheduler.Nesting
/-!
What a run passes through. A run is not only where it ends: in the middle of a job, and of the ticks around
it, the scheduler is asked and changed. These relations follow a run step by step to any state on its way,
also if it never comes to an end because ticks nest too deep. Main statements: the jobs of a host pass through
the state in which they end, and what every single thing that can happen keeps is true wherever a run passes.
-/

namespace ScriptBridge

variable {σ : Type}

/-- A job passes through a state, ticking by the given means; `inTick` says what such a tick passes
through. -/
inductive Job.Passes (tick : RunStep σ) (inTick : SchedulerRun σ → SchedulerRun σ → Prop) :
    Job σ → SchedulerRun σ → SchedulerRun σ → Prop where
  | here {job : Job σ} {run : SchedulerRun σ} : Passes tick inTick job run run
  | act {change : σ → σ} {next : Job σ} {run middle : SchedulerRun σ}
      (later : Passes tick inTick next { run with state := change run.state } middle) :
      Passes tick inTick (.act change next) run middle
  | look {next : σ → Job σ} {run middle : SchedulerRun σ}
      (later : Passes tick inTick (next run.state) run middle) :
      Passes tick inTick (.look next) run middle
  | clock {next : UInt64 → Nat → Job σ} {run middle : SchedulerRun σ}
      (later : Passes tick inTick (next run.scheduler.current run.scheduler.pending) run middle) :
      Passes tick inTick (.clock next) run middle
  | schedule {delay : UInt64} {period : Option UInt64} {job : Job σ} {next : TaskId → Job σ}
      {run middle : SchedulerRun σ} {id : TaskId}
      (given : (run.schedule delay period job).2 = some id)
      (later : Passes tick inTick (next id) (run.schedule delay period job).1 middle) :
      Passes tick inTick (.schedule delay period job next) run middle
  | scheduleTooLate {delay : UInt64} {period : Option UInt64} {job : Job σ} {next : TaskId → Job σ}
      {run : SchedulerRun σ} :
      Passes tick inTick (.schedule delay period job next) run (run.schedule delay period job).1
  | cancel {id : TaskId} {next : Bool → Job σ} {run middle : SchedulerRun σ}
      (later : Passes tick inTick (next (run.cancel id).2) (run.cancel id).1 middle) :
      Passes tick inTick (.cancel id next) run middle
  | isQueued {id : TaskId} {next : Bool → Job σ} {run middle : SchedulerRun σ}
      (later : Passes tick inTick (next (run.isQueued id).2) (run.isQueued id).1 middle) :
      Passes tick inTick (.isQueued id next) run middle
  | inTick {next : Job σ} {run middle : SchedulerRun σ} (inside : inTick run middle) :
      Passes tick inTick (.tick next) run middle
  | afterTick {next : Job σ} {run after middle : SchedulerRun σ}
      (ticked : tick run = some (after, .finished)) (later : Passes tick inTick next after middle) :
      Passes tick inTick (.tick next) run middle

namespace SchedulerRun

variable [Journaled σ]

/-- What a task leaves that started in a tick: after a panic there is a warning. -/
def afterTask (id : TaskId) (after : SchedulerRun σ) : RunEnd → SchedulerRun σ
  | .finished => after
  | .panicked => { after with state := Journaled.warn (.taskPanicked id) after.state }

/-- The rest of a tick passes through a state. -/
inductive PassesDue (tick : RunStep σ) (inTick : SchedulerRun σ → SchedulerRun σ → Prop)
    (now : UInt64) : List TaskId → SchedulerRun σ → SchedulerRun σ → Prop where
  | here {left : List TaskId} {run : SchedulerRun σ} : PassesDue tick inTick now left run run
  | gone {id : TaskId} {left : List TaskId} {run middle : SchedulerRun σ}
      (turn : run.scheduler.takeTurn now id = .gone)
      (later : PassesDue tick inTick now left run middle) :
      PassesDue tick inTick now (id :: left) run middle
  | overflowed {id : TaskId} {left : List TaskId} {run : SchedulerRun σ}
      (turn : run.scheduler.takeTurn now id = .overflow) :
      PassesDue tick inTick now (id :: left) run (run.note .overflowed)
  | inJob {id : TaskId} {left : List TaskId} {run middle : SchedulerRun σ}
      {scheduler : Scheduler σ} {job : Job σ}
      (turn : run.scheduler.takeTurn now id = .start scheduler job)
      (inside : job.Passes tick inTick ({ run with scheduler }.note (.started id job)) middle) :
      PassesDue tick inTick now (id :: left) run middle
  | afterJob {id : TaskId} {left : List TaskId} {run after middle : SchedulerRun σ}
      {scheduler : Scheduler σ} {job : Job σ} {ending : RunEnd}
      (turn : run.scheduler.takeTurn now id = .start scheduler job)
      (ran : job.run tick ({ run with scheduler }.note (.started id job)) = some (after, ending))
      (later : PassesDue tick inTick now left (afterTask id after ending) middle) :
      PassesDue tick inTick now (id :: left) run middle

/-- A tick passes through a state, where ticks may nest `depth` deep. -/
def PassesTick : Nat → SchedulerRun σ → SchedulerRun σ → Prop
  | 0, run, middle => middle = run
  | depth + 1, run, middle =>
    middle = run
      ∨ (laterTick? run.scheduler.current 1 = none ∧ middle = run.beginTick.note .ended)
      ∨ ∃ now, laterTick? run.scheduler.current 1 = some now
          ∧ (PassesDue (SchedulerRun.tick depth) (PassesTick depth) now (run.scheduler.dueBy now)
                run.beginTick middle
            ∨ ∃ after ending,
                runDue (SchedulerRun.tick depth) now (run.scheduler.dueBy now) run.beginTick
                    = some (after, ending)
                  ∧ middle = after.note .ended)

/-- A host's jobs, one after another, pass through a state. -/
inductive PassesJobs (depth : Nat) : List (Job σ) → SchedulerRun σ → SchedulerRun σ → Prop where
  | here {jobs : List (Job σ)} {run : SchedulerRun σ} : PassesJobs depth jobs run run
  | inJob {job : Job σ} {jobs : List (Job σ)} {run middle : SchedulerRun σ}
      (inside : job.Passes (SchedulerRun.tick depth) (PassesTick depth) run middle) :
      PassesJobs depth (job :: jobs) run middle
  | afterJob {job : Job σ} {jobs : List (Job σ)} {run after middle : SchedulerRun σ} {ending : RunEnd}
      (ran : job.run (SchedulerRun.tick depth) run = some (after, ending))
      (later : PassesJobs depth jobs after middle) : PassesJobs depth (job :: jobs) run middle

end SchedulerRun

/-! ### The jobs of a host pass through their end -/

namespace SchedulerRun

variable [Journaled σ]

/-- A host's jobs pass through the state in which they end. -/
theorem passesJobs_end {depth : Nat} {jobs : List (Job σ)} {run after : SchedulerRun σ}
    (ran : run.carryOut depth jobs = some after) : PassesJobs depth jobs run after := by
  induction jobs generalizing run with
  | nil =>
      cases ran
      exact .here
  | cons job jobs ih =>
      rw [carryOut] at ran
      obtain ⟨⟨later, ending⟩, jobRan, ran⟩ := Option.bind_eq_some_iff.1 ran
      exact .afterJob jobRan (ih ran)

end SchedulerRun

/-! ### Invariants hold wherever a run passes -/

namespace NestingInvariant

variable {inv : List OpenTick → SchedulerRun σ → Prop} {ticks : List OpenTick}

/-- In a job the invariant holds for the ticks around it, and in a tick that it makes for some more. -/
theorem holds_of_passes (invariant : NestingInvariant inv) {tick : RunStep σ}
    {inTick : SchedulerRun σ → SchedulerRun σ → Prop} (keeps : Preserves (inv ticks) tick)
    (inside : ∀ {run middle}, inv ticks run → inTick run middle → ∃ open_ticks, inv open_ticks middle)
    {job : Job σ} {run middle : SchedulerRun σ} (passes : job.Passes tick inTick run middle)
    (holds : inv ticks run) : ∃ open_ticks, inv open_ticks middle := by
  induction passes with
  | here => exact ⟨ticks, holds⟩
  | act _ ih => exact ih (invariant.act _ holds)
  | look _ ih => exact ih holds
  | clock _ ih => exact ih holds
  | schedule _ _ ih => exact ih (invariant.schedule _ _ _ holds)
  | scheduleTooLate => exact ⟨ticks, invariant.schedule _ _ _ holds⟩
  | cancel _ ih => exact ih (invariant.cancel _ holds)
  | isQueued _ ih => exact ih (invariant.isQueued _ holds)
  | inTick passes => exact inside holds passes
  | afterTick ticked _ ih => exact ih (keeps holds ticked)

variable [Journaled σ]

theorem holds_of_passesDue (invariant : NestingInvariant inv) {tick : RunStep σ}
    {inTick : SchedulerRun σ → SchedulerRun σ → Prop} (keeps : ∀ ticks, Preserves (inv ticks) tick)
    (inside : ∀ {ticks run middle}, inv ticks run → inTick run middle →
      ∃ open_ticks, inv open_ticks middle)
    {number : Nat} {now : UInt64} {left : List TaskId} {run middle : SchedulerRun σ}
    (passes : SchedulerRun.PassesDue tick inTick now left run middle)
    (holds : inv (⟨number, now, left⟩ :: ticks) run) : ∃ open_ticks, inv open_ticks middle := by
  have started {run : SchedulerRun σ} {id : TaskId} {left : List TaskId} {scheduler : Scheduler σ}
      {job : Job σ} (turn : run.scheduler.takeTurn now id = .start scheduler job)
      (holds : inv (⟨number, now, id :: left⟩ :: ticks) run) :
      inv (⟨number, now, left⟩ :: ticks) ({ run with scheduler }.note (.started id job)) := by
    rcases run.scheduler.takeTurn_cases now id with
      ⟨-, gone⟩ | overflow | ⟨task, begun, found, start, taken⟩
    · rw [gone] at turn
      cases turn
    · rw [overflow] at turn
      cases turn
    · rw [start] at turn
      cases turn
      exact invariant.started found taken holds
  induction passes with
  | here => exact ⟨_, holds⟩
  | @gone id left run _ turn _ ih =>
      apply ih
      rcases run.scheduler.takeTurn_cases now id with
        ⟨missing, -⟩ | overflow | ⟨task, begun, -, start, -⟩
      · exact invariant.gone missing holds
      · rw [overflow] at turn
        cases turn
      · rw [start] at turn
        cases turn
  | overflowed => exact ⟨_, invariant.overflowed holds⟩
  | inJob turn passes =>
      exact invariant.holds_of_passes (keeps _) inside passes (started turn holds)
  | @afterJob id left run after _ scheduler job ending turn ran _ ih =>
      apply ih
      have holds_after := invariant.run_preserves (keeps _) job (started turn holds) ran
      cases ending with
      | finished => exact holds_after
      | panicked => exact invariant.act _ holds_after

/-- In a tick the invariant holds for the ticks that are open by then, however deep ticks nest. -/
theorem holds_of_passesTick (invariant : NestingInvariant inv) {depth : Nat}
    {run middle : SchedulerRun σ} (holds : inv ticks run)
    (passes : SchedulerRun.PassesTick depth run middle) : ∃ open_ticks, inv open_ticks middle := by
  induction depth generalizing ticks run middle with
  | zero =>
      cases passes
      exact ⟨ticks, holds⟩
  | succ depth ih =>
      rcases passes with rfl | ⟨last, rfl⟩ | ⟨now, next, passes | ⟨after, ending, ran, rfl⟩⟩
      · exact ⟨ticks, holds⟩
      · exact ⟨ticks, invariant.cameRound last holds⟩
      · exact invariant.holds_of_passesDue (invariant.tick_preserves depth) ih passes
          (invariant.begun next holds)
      · obtain ⟨rest, holds_after⟩ :=
          invariant.runDue_preserves (invariant.tick_preserves depth) (invariant.begun next holds) ran
        exact ⟨ticks, invariant.ended holds_after⟩

/-- Wherever the jobs of a host pass, the invariant holds for the ticks that are open by then. -/
theorem holds_of_passesJobs (invariant : NestingInvariant inv) {depth : Nat} {jobs : List (Job σ)}
    {run middle : SchedulerRun σ} (passes : SchedulerRun.PassesJobs depth jobs run middle)
    (holds : inv [] run) : ∃ open_ticks, inv open_ticks middle := by
  induction passes with
  | here => exact ⟨[], holds⟩
  | inJob inside =>
      exact invariant.holds_of_passes (invariant.tick_preserves depth [])
        invariant.holds_of_passesTick inside holds
  | afterJob ran _ ih =>
      exact ih (invariant.run_preserves (invariant.tick_preserves depth []) _ holds ran)

end NestingInvariant

end ScriptBridge
