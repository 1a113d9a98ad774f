import ScriptBridge.Proofs.Scheduler.Passage
/-!
The life of a task, however jobs tick in turn. A task is alive from when it is scheduled until somebody takes
it off the queue or, if it is to run once, until it starts; and what is over stays over, also where a tick
under way has noted the task as due. First this is read off histories alone, ticks of any kind; then the
scheduler is shown to know at every point of a run which tasks are alive. Main statement: wherever a run
passes, its history is one of such lives, and the tasks that are queued are exactly those alive.
-/

namespace ScriptBridge

namespace History

variable {σ : Type}

/-- The identifiers that were given, latest first. -/
def given : List (Moment σ) → List TaskId
  | [] => []
  | .scheduled id _ _ _ :: before => id :: given before
  | _ :: before => given before

/-- Whether a moment takes a task off the queue. -/
def removes (id : TaskId) : Moment σ → Bool
  | .cancelled other found => other = id && found
  | _ => false

/-- How often a task was taken off the queue. -/
def timesRemoved (id : TaskId) (history : List (Moment σ)) : Nat :=
  history.countP (removes id)

/-- Whether a moment schedules a task that repeats. -/
def schedulesRepeating (id : TaskId) : Moment σ → Bool
  | .scheduled other _ period _ => other = id && period.isSome
  | _ => false

/-- Whether a task was scheduled to repeat. -/
def repeats (id : TaskId) (history : List (Moment σ)) : Bool :=
  history.any (schedulesRepeating id)

/-- A task is alive: it was scheduled and not taken off the queue, and it has not started if it is to run
only once. -/
def Alive (id : TaskId) (history : List (Moment σ)) : Prop :=
  id ∈ given history ∧ timesRemoved id history = 0
    ∧ (repeats id history = true ∨ startTicks id history = [])

instance (id : TaskId) (history : List (Moment σ)) : Decidable (Alive id history) :=
  inferInstanceAs (Decidable (_ ∧ _ ∧ _))

/-- The lives that tasks have had so far. Identifiers are given in ascending order; a task that is to run
once has started once at most or was taken off the queue once, never both; who cancels a task or asks for
it is told whether it is alive; and a task that was taken off the queue does not start again, nor does one
that is to run once and has started. -/
structure LifeCycle (history : List (Moment σ)) : Prop where
  ascending : (given history).Pairwise fun later earlier => earlier.number < later.number
  once : ∀ id, repeats id history = false →
    ((startTicks id history).length ≤ 1 ∧ timesRemoved id history = 0)
      ∨ (startTicks id history = [] ∧ timesRemoved id history = 1)
  cancelled {later before : List (Moment σ)} {id : TaskId} {found : Bool}
    (shape : history = later ++ .cancelled id found :: before) :
    (found = true ↔ Alive id before)
      ∧ (found = true → startTicks id history = startTicks id before)
  asked {later before : List (Moment σ)} {id : TaskId} {queued : Bool}
    (shape : history = later ++ .asked id queued :: before) : queued = true ↔ Alive id before
  started {later before : List (Moment σ)} {id : TaskId} {job : Job σ}
    (shape : history = later ++ .started id job :: before) :
    Alive id before ∧ (repeats id history = false → startTicks id history = [clock before])

variable {history : List (Moment σ)} {id : TaskId}

@[simp] theorem timesRemoved_cons (id : TaskId) (moment : Moment σ) (before : List (Moment σ)) :
    timesRemoved id (moment :: before)
      = timesRemoved id before + if removes id moment then 1 else 0 :=
  List.countP_cons

@[simp] theorem repeats_cons (id : TaskId) (moment : Moment σ) (before : List (Moment σ)) :
    repeats id (moment :: before) = (schedulesRepeating id moment || repeats id before) :=
  List.any_cons

theorem mem_given : id ∈ given history ↔ 0 < timesGiven id history := by
  induction history with
  | nil => simp [given, timesGiven]
  | cons moment before ih =>
      rw [timesGiven_cons]
      cases moment with
      | scheduled other =>
          rw [given, List.mem_cons, ih]
          by_cases same : other = id
          · simp [schedules, same]
          · simp [schedules, same, Ne.symm same]
      | overflowed | cancelled | asked | ticked | started | ended => exact ih

/-- What repeats was scheduled. -/
theorem timesGiven_pos_of_repeats (again : repeats id history = true) : 0 < timesGiven id history := by
  obtain ⟨moment, listed, schedules_it⟩ := List.any_eq_true.1 again
  refine List.countP_pos_iff.2 ⟨moment, listed, ?_⟩
  cases moment with
  | scheduled other =>
      rw [schedulesRepeating, Bool.and_eq_true] at schedules_it
      exact schedules_it.1
  | overflowed | cancelled | asked | ticked | started | ended => cases schedules_it

/-- What came first were no more tasks than there are in all. -/
theorem taskCount_le_of_append (later past : List (Moment σ)) :
    taskCount past ≤ taskCount (later ++ past) := by
  induction later with
  | nil => exact Nat.le_refl _
  | cons moment later ih =>
      cases moment with
      | scheduled => exact Nat.le_succ_of_le ih
      | overflowed | cancelled | asked | ticked | started | ended => exact ih

theorem few_of_append {later past : List (Moment σ)} {moment : Moment σ}
    (few : taskCount (later ++ moment :: past) ≤ UInt64.size) : taskCount past ≤ UInt64.size :=
  calc taskCount past
    _ ≤ taskCount (moment :: past) := taskCount_le_of_append [moment] past
    _ ≤ taskCount (later ++ moment :: past) := taskCount_le_of_append later (moment :: past)
    _ ≤ UInt64.size := few

namespace Orderly

theorem of_append {later past : List (Moment σ)} (orderly : Orderly (later ++ past)) : Orderly past := by
  induction later with
  | nil => exact orderly
  | cons moment later ih =>
      apply ih
      cases orderly <;> assumption

/-- What was never scheduled waits for no turn, has not started and was not taken off the queue. -/
theorem untouched (orderly : Orderly history) (never : timesGiven id history = 0) :
    nextTurn id history = none ∧ startTicks id history = [] ∧ timesRemoved id history = 0
      ∧ repeats id history = false := by
  have waits_not {history : List (Moment σ)} (never : timesGiven id history = 0) :
      nextTurn id history = none := by
    cases waiting : nextTurn id history with
    | none => rfl
    | some turn =>
        have scheduled := timesGiven_pos_of_nextTurn waiting
        omega
  refine ⟨waits_not never, orderly.startTicks_eq_nil never, ?_, ?_⟩
  · induction orderly with
    | nil => rfl
    | @cancelled other found before _ truly ih =>
        have never_before : timesGiven id before = 0 := by simpa [schedules] using never
        rw [timesRemoved_cons, ih never_before]
        by_cases same : other = id
        · subst same
          rw [waits_not never_before] at truly
          simp [removes, truly]
        · simp [removes, same]
    | scheduled _ _ ih => exact ih (by rw [timesGiven_cons] at never; omega)
    | asked _ _ ih => exact ih never
    | ticked _ ih => exact ih never
    | started _ _ ih => exact ih never
    | ended _ ih => exact ih never
  · apply Bool.eq_false_iff.2
    intro again
    have scheduled := timesGiven_pos_of_repeats again
    omega

/-- The turn that a task waits for says whether it repeats. -/
theorem period_isSome (orderly : Orderly history) (few : taskCount history ≤ UInt64.size)
    {turn : NextTurn σ} (waiting : nextTurn id history = some turn) :
    turn.period.isSome = repeats id history := by
  induction orderly generalizing turn with
  | nil => cases waiting
  | @scheduled other delay period job before orderly number ih =>
      rw [nextTurn] at waiting
      rw [repeats_cons, schedulesRepeating]
      split at waiting
      · next same =>
          cases waiting
          obtain ⟨-, -, -, once⟩ := orderly.untouched (orderly.fresh few (same ▸ number))
          simp [same, once]
      · next apart => simpa [apart] using ih (Nat.le_of_succ_le few) waiting
  | @cancelled other found before _ _ ih =>
      rw [nextTurn] at waiting
      split at waiting
      · cases waiting
      · exact ih few waiting
  | @started other earlier before _ known ih =>
      rw [nextTurn] at waiting
      split at waiting
      · next same =>
          subst same
          rw [known, Option.bind_some] at waiting
          obtain ⟨period, again, rfl⟩ := Option.map_eq_some_iff.1 waiting
          have before_it := ih few known
          rw [again] at before_it
          exact before_it
      · exact ih few waiting
  | asked _ _ ih => exact ih few waiting
  | ticked _ ih => exact ih few waiting
  | ended _ ih => exact ih few waiting

/-- A task waits for a turn as long as it is alive. -/
theorem nextTurn_isSome_iff (orderly : Orderly history) (few : taskCount history ≤ UInt64.size)
    (id : TaskId) : (nextTurn id history).isSome = true ↔ Alive id history := by
  induction orderly with
  | nil => simp [nextTurn, Alive, given]
  | @scheduled other delay period job before orderly number ih =>
      have ih := ih (Nat.le_of_succ_le few)
      rw [nextTurn]
      by_cases same : other = id
      · subst same
        obtain ⟨-, unstarted, kept, -⟩ := orderly.untouched (orderly.fresh few number)
        simp [Alive, given, startTicks, unstarted, kept, removes]
      · rw [if_neg same, ih]
        simp [Alive, given, startTicks, removes, schedulesRepeating, same, Ne.symm same]
  | @cancelled other found before orderly truly ih =>
      have ih := ih few
      rw [nextTurn]
      by_cases same : other = id
      · subst same
        rw [if_pos rfl]
        constructor
        · intro impossible
          cases impossible
        · -- it was taken off the queue, or else it was not alive before
          rintro ⟨scheduled, kept, unspent⟩
          rw [timesRemoved_cons] at kept
          cases found with
          | true => simp [removes] at kept
          | false =>
              have alive : Alive other before := ⟨scheduled, by omega, unspent⟩
              rw [ih.2 alive] at truly
              cases truly
      · rw [if_neg same, ih]
        simp [Alive, given, startTicks, removes, schedulesRepeating, same]
  | @started other turn before orderly waiting ih =>
      have ih := ih few
      rw [nextTurn]
      by_cases same : other = id
      · subst same
        obtain ⟨scheduled, kept, -⟩ := ih.1 (by rw [waiting]; rfl)
        have again := orderly.period_isSome few waiting
        rw [if_pos rfl, waiting, Option.bind_some, Option.isSome_map, again]
        simp [Alive, given, startTicks, removes, schedulesRepeating, scheduled, kept]
      · rw [if_neg same, ih]
        simp [Alive, given, startTicks, removes, schedulesRepeating, same]
  | asked _ _ ih => exact ih few
  | ticked _ ih => exact ih few
  | ended _ ih => exact ih few

theorem ascending (orderly : Orderly history) (few : taskCount history ≤ UInt64.size) :
    (given history).Pairwise fun later earlier => earlier.number < later.number := by
  induction orderly with
  | nil => exact .nil
  | @scheduled id _ _ _ before orderly number ih =>
      refine List.pairwise_cons.2 ⟨?_, ih (Nat.le_of_succ_le few)⟩
      intro earlier listed
      have less := orderly.number_lt (Nat.le_of_succ_le few) (mem_given.1 listed)
      show earlier.number.toNat < id.number.toNat
      rw [number, Nat.mod_eq_of_lt few]
      exact less
  | cancelled _ _ ih => exact ih few
  | asked _ _ ih => exact ih few
  | ticked _ ih => exact ih few
  | started _ _ ih => exact ih few
  | ended _ ih => exact ih few

/-- A task that is to run once starts once or is taken off the queue once, and not both. -/
theorem starts_add_removed_le (orderly : Orderly history) (few : taskCount history ≤ UInt64.size)
    (once : repeats id history = false) :
    (startTicks id history).length + timesRemoved id history ≤ 1 := by
  induction orderly with
  | nil => exact Nat.zero_le 1
  | @scheduled other _ _ _ before orderly _ ih =>
      rw [repeats_cons, Bool.or_eq_false_iff] at once
      exact ih (Nat.le_of_succ_le few) once.2
  | @cancelled other found before orderly truly ih =>
      rw [timesRemoved_cons]
      by_cases removed : removes id (.cancelled other found : Moment σ) = true
      · rw [removes, Bool.and_eq_true, decide_eq_true_eq] at removed
        obtain ⟨rfl, rfl⟩ := removed
        obtain ⟨-, kept, unspent⟩ := (orderly.nextTurn_isSome_iff few other).1 truly.symm
        have unstarted := unspent.resolve_left (by rw [show repeats other before = false from once]; simp)
        simp [startTicks, kept, unstarted, removes]
      · simpa [removed, startTicks] using ih few once
  | @started other turn before orderly waiting ih =>
      rw [startTicks]
      split
      · next same =>
          subst same
          obtain ⟨-, kept, unspent⟩ :=
            (orderly.nextTurn_isSome_iff few other).1 (by rw [waiting]; rfl)
          have unstarted := unspent.resolve_left (by rw [show repeats other before = false from once]; simp)
          simp [kept, unstarted, removes]
      · exact ih few once
  | asked _ _ ih => exact ih few once
  | ticked _ ih => exact ih few once
  | ended _ ih => exact ih few once

/-- What is over at some point and was scheduled before it has no more starts after it. -/
theorem startTicks_eq_of_over {later past : List (Moment σ)} (orderly : Orderly (later ++ past))
    (few : taskCount (later ++ past) ≤ UInt64.size) (gone : nextTurn id past = none)
    (scheduled : id ∈ given past) : startTicks id (later ++ past) = startTicks id past := by
  have once := orderly.timesGiven_le_one few id
  have split : timesGiven id (later ++ past) = timesGiven id later + timesGiven id past :=
    List.countP_append
  have there := mem_given.1 scheduled
  exact (orderly.startTicks_of_over gone (by omega)).1

/-- The history of a scheduler that takes its tasks from its queue is one of lives of tasks. -/
theorem lifeCycle (orderly : Orderly history) (few : taskCount history ≤ UInt64.size) :
    LifeCycle history where
  ascending := orderly.ascending few
  once id single := by
    have atMost := orderly.starts_add_removed_le few single
    rcases Nat.eq_zero_or_pos (timesRemoved id history) with kept | removed
    · exact .inl ⟨by omega, kept⟩
    · exact .inr ⟨List.length_eq_zero_iff.1 (by omega), by omega⟩
  cancelled := by
    rintro later before id found rfl
    have few_before := few_of_append few
    cases orderly.of_append with
    | cancelled past truly =>
        have alive := past.nextTurn_isSome_iff few_before id
        rw [← truly] at alive
        refine ⟨alive, fun removed => ?_⟩
        exact orderly.startTicks_eq_of_over few (if_pos rfl) (alive.1 removed).1
  asked := by
    rintro later before id queued rfl
    cases orderly.of_append with
    | asked past truly =>
        have alive := past.nextTurn_isSome_iff (few_of_append few) id
        rwa [← truly] at alive
  started := by
    rintro later before id job rfl
    have few_before := few_of_append few
    cases orderly.of_append with
    | @started _ turn _ past waiting =>
        have alive := (past.nextTurn_isSome_iff few_before id).1 (by rw [waiting]; rfl)
        refine ⟨alive, fun single => ?_⟩
        have single_before : repeats id before = false := by
          rw [repeats, List.any_append, Bool.or_eq_false_iff] at single
          exact single.2
        have gone : nextTurn id (.started id turn.job :: before) = none := by
          have again := past.period_isSome few_before waiting
          rw [single_before, Option.isSome_eq_false_iff, Option.isNone_iff_eq_none] at again
          rw [nextTurn, if_pos rfl, waiting, Option.bind_some, again]
          rfl
        rw [orderly.startTicks_eq_of_over few gone alive.1, startTicks, if_pos rfl,
          alive.2.2.resolve_left (by rw [single_before]; simp)]
        rfl

end Orderly

/-- The tasks that are alive. -/
def living (history : List (Moment σ)) : List TaskId :=
  (given history).filter (Alive · history)

end History

open History

variable {σ : Type}

/-- What a turn is about, apart from when it comes. -/
def History.NextTurn.matter (turn : NextTurn σ) : Option Nat × Job σ :=
  (turn.period, turn.job)

/-- What a task is about, apart from when it is due. -/
def Task.matter (task : Task σ) : Option Nat × Job σ :=
  (task.period.map UInt64.toNat, task.job)

/-- What holds of a run wherever it passes: the queue holds what the history says waits for a turn, and as
long as all numbers have fitted their words the history is one of a queue. -/
structure Accounted (run : SchedulerRun σ) : Prop where
  ordered : Scheduler.Ordered run.scheduler.tasks
  queue : ∀ id, (nextTurn id run.history).map NextTurn.matter
    = (run.scheduler.task? id).map Task.matter
  count : .overflowed ∉ run.history →
    run.scheduler.nextId.toNat = taskCount run.history % UInt64.size
  orderly : .overflowed ∉ run.history → Orderly run.history

namespace Accounted

variable {run : SchedulerRun σ}

theorem start (state : σ) : Accounted { scheduler := {}, state } where
  ordered := .nil
  queue _ := rfl
  count _ := rfl
  orderly _ := .nil

/-- A task is queued if and only if it waits for a turn. -/
theorem isQueued_eq (accounted : Accounted run) (id : TaskId) :
    run.scheduler.isQueued id = (nextTurn id run.history).isSome := by
  have same := congrArg Option.isSome (accounted.queue id)
  rw [Option.isSome_map, Option.isSome_map] at same
  rw [Scheduler.isQueued_eq, same]

/-- Once a number did not fit its word, no more is said of those that are given. -/
theorem overflowed (accounted : Accounted run) (nextId : UInt64) :
    Accounted ({ run with scheduler := { run.scheduler with nextId } }.note .overflowed) where
  ordered := accounted.ordered
  queue := accounted.queue
  count fits := absurd (List.mem_cons_self ..) fits
  orderly fits := absurd (List.mem_cons_self ..) fits

/-- A task is queued under the next number. -/
theorem scheduled (accounted : Accounted run) (delay : UInt64) (period : Option UInt64)
    (job : Job σ) (due : UInt64) :
    Accounted ({ run with
      scheduler := { run.scheduler with
        nextId := run.scheduler.nextId + 1
        tasks := Scheduler.place ⟨run.scheduler.nextId⟩ { due, period := period.map (max · 1), job }
          run.scheduler.tasks } }.note (.scheduled ⟨run.scheduler.nextId⟩ delay period job)) where
  ordered := accounted.ordered.place
  queue := by
    intro id
    show (nextTurn id (.scheduled _ delay period job :: run.history)).map NextTurn.matter
      = (Scheduler.taskIn? id (Scheduler.place _ _ run.scheduler.tasks)).map Task.matter
    rw [nextTurn, Scheduler.taskIn?_place]
    split
    · rw [Option.map_some, Option.map_some, Task.matter, Scheduler.map_toNat_atLeast_one]
      rfl
    · exact accounted.queue id
  count fits :=
    Scheduler.toNat_add_one_of_mod (accounted.count (List.not_mem_of_not_mem_cons fits))
  orderly := by
    intro fits
    have fits_before := List.not_mem_of_not_mem_cons fits
    exact .scheduled (accounted.orderly fits_before) (accounted.count fits_before)

theorem schedule (accounted : Accounted run) (delay : UInt64) (period : Option UInt64)
    (job : Job σ) : Accounted (run.schedule delay period job).1 := by
  rw [SchedulerRun.schedule]
  rcases run.scheduler.schedule_cases delay period job with none_fits | ⟨due, -, queued⟩
  · rw [none_fits]
    exact accounted.overflowed (run.scheduler.nextId + 1)
  · rw [queued]
    exact accounted.scheduled delay period job due

theorem cancel (accounted : Accounted run) (id : TaskId) : Accounted (run.cancel id).1 where
  ordered := accounted.ordered.cancel id
  queue other := by
    show (nextTurn other (.cancelled id _ :: run.history)).map NextTurn.matter
      = ((run.scheduler.cancel id).1.task? other).map Task.matter
    rw [nextTurn, Scheduler.task?_cancel]
    split
    · rfl
    · exact accounted.queue other
  count fits := accounted.count (List.not_mem_of_not_mem_cons fits)
  orderly fits :=
    .cancelled (accounted.orderly (List.not_mem_of_not_mem_cons fits))
      (accounted.isQueued_eq id)

theorem isQueued (accounted : Accounted run) (id : TaskId) : Accounted (run.isQueued id).1 where
  ordered := accounted.ordered
  queue := accounted.queue
  count fits := accounted.count (List.not_mem_of_not_mem_cons fits)
  orderly fits :=
    .asked (accounted.orderly (List.not_mem_of_not_mem_cons fits))
      (accounted.isQueued_eq id)

theorem beginTick (accounted : Accounted run) : Accounted run.beginTick where
  ordered := accounted.ordered
  queue := accounted.queue
  count fits := accounted.count (List.not_mem_of_not_mem_cons fits)
  orderly fits := .ticked (accounted.orderly (List.not_mem_of_not_mem_cons fits))

theorem ended (accounted : Accounted run) : Accounted (run.note .ended) where
  ordered := accounted.ordered
  queue := accounted.queue
  count fits := accounted.count (List.not_mem_of_not_mem_cons fits)
  orderly fits := .ended (accounted.orderly (List.not_mem_of_not_mem_cons fits))

/-- A task that takes its turn was waiting for it, in whatever tick that is. -/
theorem started (accounted : Accounted run) {id : TaskId} {now : UInt64} {task : Task σ}
    {after : Scheduler σ} (found : run.scheduler.task? id = some task)
    (taken : Scheduler.TurnTaken now id task run.scheduler after) :
    Accounted ({ run with scheduler := after }.note (.started id task.job)) := by
  have known := accounted.queue id
  rw [found, Option.map_some] at known
  obtain ⟨turn, waiting, same⟩ := Option.map_eq_some_iff.1 known
  obtain ⟨period_eq, job_eq⟩ := Prod.mk.inj same
  exact {
    ordered := taken.ordered accounted.ordered
    queue := by
      intro other
      show (nextTurn other (.started id task.job :: run.history)).map NextTurn.matter
        = (after.task? other).map Task.matter
      rw [nextTurn]
      split
      · next same =>
          subst same
          rw [waiting, Option.bind_some, period_eq]
          cases repeats : task.period with
          | none =>
              rw [taken.once repeats]
              rfl
          | some period =>
              obtain ⟨due, -, again⟩ := taken.again period repeats
              rw [again]
              simp [NextTurn.matter, Task.matter, repeats, job_eq]
      · next apart =>
          rw [taken.others other (Ne.symm apart)]
          exact accounted.queue other
    count := by
      intro fits
      show after.nextId.toNat = taskCount run.history % UInt64.size
      rw [taken.nextId]
      exact accounted.count (List.not_mem_of_not_mem_cons fits)
    orderly := by
      intro fits
      rw [← job_eq]
      exact .started (accounted.orderly (List.not_mem_of_not_mem_cons fits)) waiting }

/-- Whatever happens in a run, it stays accounted for. -/
theorem nestingInvariant : NestingInvariant fun _ => Accounted (σ := σ) where
  act _ accounted := { accounted with }
  schedule delay period job accounted := accounted.schedule delay period job
  cancel id accounted := accounted.cancel id
  isQueued id accounted := accounted.isQueued id
  cameRound _ accounted := accounted.beginTick.ended
  begun _ accounted := accounted.beginTick
  gone _ accounted := accounted
  overflowed {_ run} accounted := accounted.overflowed run.scheduler.nextId
  started found taken accounted := accounted.started found taken
  ended accounted := accounted.ended

/-- The queued tasks are those alive, each once. -/
theorem queued_perm (accounted : Accounted run) (fits : .overflowed ∉ run.history)
    (few : taskCount run.history ≤ UInt64.size) :
    (run.scheduler.tasks.map (·.1)).Perm (living run.history) := by
  have orderly := accounted.orderly fits
  rw [List.perm_ext_iff_of_nodup]
  · intro id
    have queued : id ∈ run.scheduler.tasks.map (·.1) ↔ run.scheduler.isQueued id = true := by
      simp [Scheduler.isQueued]
    rw [queued, accounted.isQueued_eq, orderly.nextTurn_isSome_iff few, living, List.mem_filter,
      decide_eq_true_iff]
    exact ⟨fun alive => ⟨alive.1, alive⟩, And.right⟩
  · refine List.pairwise_map.2 (accounted.ordered.imp fun less same => ?_)
    exact UInt64.lt_irrefl _ (same ▸ less)
  · refine .filter _ ((orderly.ascending few).imp fun less same => ?_)
    exact UInt64.lt_irrefl _ (same ▸ less)

end Accounted

/-- Wherever a run passes, be it inside jobs of ticks inside other ticks: unless some number did not fit its
word, its history is one of lives of tasks; whoever asks for a task or cancels it is told whether it is
alive; and as many tasks are queued as are alive. -/
theorem lifeCycle_of_run [Journaled σ] {depth : Nat} {jobs : List (Job σ)} {state : σ}
    {run : SchedulerRun σ}
    (passes : SchedulerRun.PassesJobs depth jobs { scheduler := {}, state } run)
    (fits : .overflowed ∉ run.history) (few : taskCount run.history ≤ UInt64.size) :
    LifeCycle run.history
      ∧ (∀ id, (run.isQueued id).2 = decide (Alive id run.history)
          ∧ (run.cancel id).2 = decide (Alive id run.history))
      ∧ run.scheduler.pending = (living run.history).length := by
  obtain ⟨-, accounted⟩ :=
    Accounted.nestingInvariant.holds_of_passesJobs passes (Accounted.start state)
  have orderly := accounted.orderly fits
  have queued (id : TaskId) : run.scheduler.isQueued id = decide (Alive id run.history) := by
    rw [accounted.isQueued_eq, Bool.eq_iff_iff, decide_eq_true_iff]
    exact orderly.nextTurn_isSome_iff few id
  refine ⟨orderly.lifeCycle few, fun id => ⟨queued id, queued id⟩, ?_⟩
  have lengths := (accounted.queued_perm fits few).length_eq
  rwa [List.length_map] at lengths

/-- The job that takes the third task off the queue. -/
def meddler : Job Scene :=
  .cancel ⟨2⟩ fun _ => .done

/-- A host whose first task ticks and whose second one cancels the third; all of them are due at once, and
the third one would repeat. Afterwards it is cancelled again, in vain. -/
def meddling : List (Job Scene) :=
  [.schedule 1 none (.tick .done) fun _ => .schedule 1 none meddler fun _ =>
    .schedule 1 (some 1) .done fun _ => .tick meddler]

/-- What happens to that host's tasks: the tick inside the first tick runs the second task, which takes the
third one off the queue while both ticks have noted it as due, so it never starts. -/
def meddlingHistory : List (Moment Scene) :=
  [.cancelled ⟨2⟩ false, .ended, .ended, .cancelled ⟨2⟩ true, .started ⟨1⟩ meddler, .ticked,
    .started ⟨0⟩ (.tick .done), .ticked, .scheduled ⟨2⟩ 1 (some 1) .done,
    .scheduled ⟨1⟩ 1 none meddler, .scheduled ⟨0⟩ 1 none (.tick .done)]

/-- In the end no task of that host is alive and none is queued. -/
theorem lifeCycle_of_meddling :
    ∃ run, SchedulerRun.PassesJobs 2 meddling
          { scheduler := {}, state := { world := { bodies := [] } } } run
      ∧ run.history = meddlingHistory ∧ LifeCycle run.history
      ∧ (∀ id, (run.isQueued id).2 = decide (Alive id run.history)
          ∧ (run.cancel id).2 = decide (Alive id run.history))
      ∧ run.scheduler.pending = (living run.history).length := by
  cases ran : SchedulerRun.carryOut 2 meddling
      { scheduler := {}, state := { world := { bodies := [] } } } with
  | none => cases ran
  | some run =>
      have history : some run.history = some meddlingHistory :=
        (congrArg (Option.map SchedulerRun.history) ran).symm.trans rfl
      have history := Option.some.inj history
      have passes := SchedulerRun.passesJobs_end ran
      refine ⟨run, passes, history, lifeCycle_of_run passes ?_ ?_⟩
      · rw [history]
        simp [meddlingHistory]
      · rw [history]
        decide

end ScriptBridge
