import ScriptBridge.Proofs.Scheduler.Passage
import ScriptBridge.Proofs.Scheduler.Spacing
/-!
The sums of a scheduler. A task is due a delay after the tick in which it is scheduled, and one that repeats
is due again a period after the tick that gives it its turn; both are sums of words. Main statement: wherever
a run passes, every queued task is due at exactly the sum that was asked for, as natural numbers are added,
so no sum goes around the greatest word and no task is due too early. A sum that fits no word is no task: the
job that schedules it panics, and so does the tick that would give the turn, before it comes to any task
behind.
-/

namespace ScriptBridge

namespace History

variable {σ : Type}

/-- The tick in which the task that waits under an identifier was asked to have its turn, from where the
counter stood when that was asked. -/
def askedTick? (id : TaskId) : List (Moment σ) → Option Nat
  | [] => none
  | .scheduled other delay _ _ :: before =>
    if other = id then some (clock before % UInt64.size + max delay.toNat 1)
    else askedTick? id before
  | .cancelled other _ :: before => if other = id then none else askedTick? id before
  | .started other _ :: before =>
    if other = id then (period? id before).map (givingTick before % UInt64.size + ·)
    else askedTick? id before
  | _ :: before => askedTick? id before

end History

open History

variable {σ : Type}

/-! ### One sum -/

namespace Scheduler

/-- Whether a sum fits a word decides whether there is a later tick. -/
theorem laterTick?_eq_none_iff {tick wait : UInt64} :
    laterTick? tick wait = none ↔ UInt64.size ≤ tick.toNat + wait.toNat := by
  rw [laterTick?]
  split
  · next fits => exact iff_of_false (by simp) (Nat.not_le.2 fits)
  · next beyond => exact iff_of_true rfl (Nat.not_lt.1 beyond)

theorem exists_laterTick? {tick wait : UInt64} (fits : tick.toNat + wait.toNat < UInt64.size) :
    ∃ later, laterTick? tick wait = some later ∧ later.toNat = tick.toNat + wait.toNat := by
  cases next : laterTick? tick wait with
  | none => exact absurd (laterTick?_eq_none_iff.1 next) (Nat.not_le.2 fits)
  | some later => exact ⟨later, rfl, laterTick?_eq_some_iff.1 next⟩

variable (scheduler : Scheduler σ)

/-- A repeating task whose next turn fits no word gets no turn. -/
theorem takeTurn_of_beyond {now period : UInt64} {id : TaskId} {task : Task σ}
    (found : scheduler.task? id = some task) (repeats : task.period = some period)
    (beyond : UInt64.size ≤ now.toNat + period.toNat) : scheduler.takeTurn now id = .overflow := by
  rw [takeTurn, found]
  simp only [repeats, laterTick?_eq_none_iff.2 beyond]

/-- Any other repeating task is due again at the sum. -/
theorem takeTurn_of_fits {now period : UInt64} {id : TaskId} {task : Task σ}
    (found : scheduler.task? id = some task) (repeats : task.period = some period)
    (fits : now.toNat + period.toNat < UInt64.size) :
    ∃ after due, scheduler.takeTurn now id = .start after task.job
      ∧ due.toNat = now.toNat + period.toNat ∧ after.task? id = some { task with due } := by
  obtain ⟨later, next, -⟩ := exists_laterTick? fits
  rcases scheduler.takeTurn_cases now id with
    ⟨missing, -⟩ | overflow | ⟨taken, after, same, start, turn⟩
  · rw [missing] at found
    cases found
  · rw [takeTurn, found] at overflow
    simp only [repeats, next] at overflow
    cases overflow
  · rw [found] at same
    cases same
    obtain ⟨due, sum, again⟩ := turn.again period repeats
    exact ⟨after, due, start, sum, again⟩

end Scheduler

namespace SchedulerRun

variable (run : SchedulerRun σ) (delay : UInt64) (period : Option UInt64) (job : Job σ)

/-- A task that would be due beyond the greatest word is not queued. -/
theorem schedule_of_beyond
    (beyond : UInt64.size ≤ run.scheduler.current.toNat + max delay.toNat 1) :
    (run.schedule delay period job).2 = none
      ∧ (run.schedule delay period job).1.scheduler.tasks = run.scheduler.tasks := by
  rw [schedule]
  rcases run.scheduler.schedule_cases delay period job with none_fits | ⟨due, sum, -⟩
  · rw [none_fits]
    exact ⟨rfl, rfl⟩
  · have bound := due.toNat_lt_size
    omega

/-- Any other task is queued, due at the sum. -/
theorem schedule_of_fits (fits : run.scheduler.current.toNat + max delay.toNat 1 < UInt64.size) :
    (run.schedule delay period job).2 = some ⟨run.scheduler.nextId⟩
      ∧ ∃ due : UInt64, due.toNat = run.scheduler.current.toNat + max delay.toNat 1
          ∧ (run.schedule delay period job).1.scheduler.task? ⟨run.scheduler.nextId⟩
              = some ⟨due, period.map (max · 1), job⟩ := by
  have within : run.scheduler.current.toNat + (max delay 1).toNat < UInt64.size := by
    rw [UInt64.toNat_max]
    exact fits
  obtain ⟨later, next, -⟩ := Scheduler.exists_laterTick? within
  rw [schedule]
  rcases run.scheduler.schedule_cases delay period job with none_fits | ⟨due, sum, queued⟩
  · have answer : (run.scheduler.schedule delay period job).2 = some ⟨run.scheduler.nextId⟩ := by
      cases period <;>
        simp only [Scheduler.schedule, Scheduler.runLater, Scheduler.runRepeating, Scheduler.enqueue,
          next]
    rw [none_fits] at answer
    cases answer
  · rw [queued]
    refine ⟨rfl, due, sum, ?_⟩
    exact (Scheduler.taskIn?_place _ _ _ _).trans (if_pos rfl)

end SchedulerRun

/-! ### The sums of a run -/

/-- What holds of a run while ticks are under way in it: every queued task is due when it was asked to be. -/
structure AsAsked (ticks : List OpenTick) (run : SchedulerRun σ) : Prop where
  measured : Measured ticks run
  due : ∀ id, (run.scheduler.task? id).map (·.due.toNat) = askedTick? id run.history

namespace AsAsked

variable {ticks : List OpenTick} {run : SchedulerRun σ}

theorem start (state : σ) : AsAsked [] { scheduler := {}, state } where
  measured := .start state
  due _ := rfl

theorem schedule (asAsked : AsAsked ticks run) (delay : UInt64) (period : Option UInt64)
    (job : Job σ) : AsAsked ticks (run.schedule delay period job).1 where
  measured := asAsked.measured.schedule delay period job
  due id := by
    rw [SchedulerRun.schedule]
    rcases run.scheduler.schedule_cases delay period job with none_fits | ⟨due, sum, queued⟩
    · rw [none_fits]
      exact asAsked.due id
    · rw [queued]
      show (Scheduler.taskIn? id (Scheduler.place _ _ run.scheduler.tasks)).map (·.due.toNat)
        = askedTick? id (.scheduled _ delay period job :: run.history)
      rw [Scheduler.taskIn?_place, askedTick?]
      split
      · rw [asAsked.measured.clock, Option.map_some, sum]
      · exact asAsked.due id

theorem cancel (asAsked : AsAsked ticks run) (id : TaskId) : AsAsked ticks (run.cancel id).1 where
  measured := asAsked.measured.cancel id
  due other := by
    show ((run.scheduler.cancel id).1.task? other).map (·.due.toNat)
      = askedTick? other (.cancelled id _ :: run.history)
    rw [Scheduler.task?_cancel, askedTick?]
    split
    · rfl
    · exact asAsked.due other

/-- A task that takes its turn is asked to take the next one a period after the tick that gives this one. -/
theorem started {number : Nat} {now : UInt64} {id : TaskId} {left : List TaskId} {task : Task σ}
    {after : Scheduler σ} (asAsked : AsAsked (⟨number, now, id :: left⟩ :: ticks) run)
    (found : run.scheduler.task? id = some task)
    (taken : Scheduler.TurnTaken now id task run.scheduler after) :
    AsAsked (⟨number, now, left⟩ :: ticks)
      ({ run with scheduler := after }.note (.started id task.job)) where
  measured := asAsked.measured.started found taken
  due other := by
    show (after.task? other).map (·.due.toNat) = askedTick? other (.started id task.job :: run.history)
    rw [askedTick?]
    split
    · next same =>
        subst same
        rw [asAsked.measured.period found]
        cases repeats : task.period with
        | none =>
            rw [taken.once repeats]
            rfl
        | some period =>
            obtain ⟨due, sum, again⟩ := taken.again period repeats
            have giving : givingTick run.history % UInt64.size = now.toNat := by
              rw [asAsked.measured.givingTick_eq]
              exact (asAsked.measured.now _ (List.mem_cons_self ..)).symm
            rw [again, giving, Option.map_some, sum]
            rfl
    · next apart =>
        rw [taken.others other (Ne.symm apart)]
        exact asAsked.due other

/-- Whatever happens in a run, its tasks stay due when they were asked to be. -/
theorem nestingInvariant : NestingInvariant (AsAsked (σ := σ)) where
  act state asAsked := ⟨asAsked.measured.act state, asAsked.due⟩
  schedule delay period job asAsked := asAsked.schedule delay period job
  cancel id asAsked := asAsked.cancel id
  isQueued id asAsked := ⟨asAsked.measured.isQueued id, asAsked.due⟩
  cameRound _ asAsked := ⟨asAsked.measured.cameRound, asAsked.due⟩
  begun next asAsked := ⟨asAsked.measured.begun next, asAsked.due⟩
  gone _ asAsked := ⟨asAsked.measured.gone, asAsked.due⟩
  overflowed asAsked := ⟨asAsked.measured.overflowed, asAsked.due⟩
  started found taken asAsked := asAsked.started found taken
  ended asAsked := ⟨asAsked.measured.ended, asAsked.due⟩

end AsAsked

/-- Wherever a run passes, be it inside jobs of ticks inside other ticks, every queued task is due at exactly
the tick that was asked for. A task that is scheduled there is queued and due at the sum of the counter and
its delay, unless that sum fits no word: then the job that schedules it panics and nothing is queued. A
repeating task that has its turn there is due again at the sum of the tick's number and its period, unless
that sum fits no word: then the tick panics at once, and the tasks behind are not looked at. -/
theorem deadlines_of_run [Journaled σ] {depth : Nat} {jobs : List (Job σ)} {state : σ}
    {run : SchedulerRun σ}
    (passes : SchedulerRun.PassesJobs depth jobs { scheduler := {}, state } run) :
    (∀ id, (run.scheduler.task? id).map (·.due.toNat) = askedTick? id run.history)
      ∧ (∀ (delay : UInt64) (period : Option UInt64) (job : Job σ),
          let sum := run.scheduler.current.toNat + max delay.toNat 1
          let after := (run.schedule delay period job).1
          let id : TaskId := ⟨run.scheduler.nextId⟩
          (sum < UInt64.size →
            (∃ due : UInt64, due.toNat = sum
              ∧ after.scheduler.task? id = some ⟨due, period.map (max · 1), job⟩)
            ∧ ∀ tick next, (Job.schedule delay period job next).run tick run = (next id).run tick after)
          ∧ (UInt64.size ≤ sum →
            after.scheduler.tasks = run.scheduler.tasks
            ∧ ∀ tick next,
                (Job.schedule delay period job next).run tick run = some (after, .panicked)))
      ∧ ∀ (now : UInt64) (id : TaskId) (task : Task σ) (period : UInt64),
          run.scheduler.task? id = some task → task.period = some period →
          let sum := now.toNat + period.toNat
          (sum < UInt64.size →
            ∃ after due, run.scheduler.takeTurn now id = .start after task.job
              ∧ due.toNat = sum ∧ after.task? id = some { task with due })
          ∧ (UInt64.size ≤ sum →
            ∀ tick left, SchedulerRun.runDue tick now (id :: left) run
              = some (run.note .overflowed, .panicked)) := by
  obtain ⟨_, asAsked⟩ := AsAsked.nestingInvariant.holds_of_passesJobs passes (AsAsked.start state)
  refine ⟨asAsked.due, ?_, ?_⟩
  · intro delay period job sum after id
    constructor
    · intro fits
      obtain ⟨given, queued⟩ := run.schedule_of_fits delay period job fits
      refine ⟨queued, fun tick next => ?_⟩
      have answer : run.schedule delay period job = (after, some id) := Prod.ext rfl given
      rw [Job.run, answer]
    · intro beyond
      obtain ⟨refused, kept⟩ := run.schedule_of_beyond delay period job beyond
      refine ⟨kept, fun tick next => ?_⟩
      have answer : run.schedule delay period job = (after, none) := Prod.ext rfl refused
      rw [Job.run, answer]
  · intro now id task period found repeats sum
    refine ⟨run.scheduler.takeTurn_of_fits found repeats, fun beyond tick left => ?_⟩
    rw [SchedulerRun.runDue, run.scheduler.takeTurn_of_beyond found repeats beyond]

/-- A host that asks, after its first tick, for a task that repeats after as many ticks as a word can count. -/
def overlong : List (Job Scene) :=
  [.tick .done, .schedule 1 (some 18446744073709551615) .done fun _ => .done]

/-- That task waits for the second tick as it was asked to. The tick then panics, whatever else is due in it,
and so does a job that asks in the meantime for as long a delay. -/
theorem deadlines_of_overlong :
    ∃ run, SchedulerRun.PassesJobs 1 overlong
          { scheduler := {}, state := { world := { bodies := [] } } } run
      ∧ (run.scheduler.task? ⟨0⟩).map (·.due.toNat) = some 2
      ∧ (∀ tick next, (Job.schedule 18446744073709551615 none .done next).run tick run
          = some ((run.schedule 18446744073709551615 none .done).1, .panicked))
      ∧ ∀ tick left, SchedulerRun.runDue tick 2 (⟨0⟩ :: left) run
          = some (run.note .overflowed, .panicked) := by
  cases ran : SchedulerRun.carryOut 1 overlong
      { scheduler := {}, state := { world := { bodies := [] } } } with
  | none => cases ran
  | some run =>
      have reached : some run.scheduler = some
          { current := 1, nextId := 1, tasks := [(⟨0⟩, ⟨2, some 18446744073709551615, .done⟩)] } :=
        (congrArg (Option.map SchedulerRun.scheduler) ran).symm.trans rfl
      have history : some run.history
          = some [.scheduled ⟨0⟩ 1 (some 18446744073709551615) .done, .ended, .ticked] :=
        (congrArg (Option.map SchedulerRun.history) ran).symm.trans rfl
      have reached := Option.some.inj reached
      have passes := SchedulerRun.passesJobs_end ran
      obtain ⟨due, schedules, turns⟩ := deadlines_of_run passes
      refine ⟨run, passes, ?_, ?_, ?_⟩
      · rw [due, Option.some.inj history]
        rfl
      · refine ((schedules 18446744073709551615 none .done).2 ?_).2
        rw [reached]
        decide
      · refine (turns 2 ⟨0⟩ ⟨2, some 18446744073709551615, .done⟩ 18446744073709551615 ?_ rfl).2 ?_
        · rw [reached]
          rfl
        · decide

end ScriptBridge
