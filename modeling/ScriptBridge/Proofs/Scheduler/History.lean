import ScriptBridge.Scheduler.Run
/-!
Histories of a scheduler, latest moment first, and what can be read off them: the number of the current
tick, the ticks in which a task started, the turn it waits for. A lawful history is one in which tasks
start when their turns come and no turn is passed over. Main statement: in every lawful history a task
that was scheduled once and not cancelled has started its job in exactly those of its turns that are over.
Nothing here depends on how a scheduler works; ticks are counted without bound.
-/

namespace ScriptBridge.History

variable {σ : Type}

/-- The number of the current tick. -/
def clock : List (Moment σ) → Nat
  | [] => 0
  | .ticked :: before => clock before + 1
  | _ :: before => clock before

/-- The ticks in which a task started, in order. -/
def startTicks (id : TaskId) : List (Moment σ) → List Nat
  | [] => []
  | .started other _ :: before =>
    if other = id then startTicks id before ++ [clock before] else startTicks id before
  | _ :: before => startTicks id before

/-- The tasks that started since the latest tick began, latest first. -/
def startedInTick : List (Moment σ) → List TaskId
  | [] => []
  | .ticked :: _ => []
  | .started id _ :: before => id :: startedInTick before
  | _ :: before => startedInTick before

/-- The latest tick in which a task's turn is over: in the tick under way once that task or one behind it
has started, and for all tasks when the tick has ended. -/
def passed (id : TaskId) : List (Moment σ) → Nat
  | [] => 0
  | .ticked :: before => clock before
  | .started other _ :: before => if id.number ≤ other.number then clock before else passed id before
  | .ended :: before => clock before
  | _ :: before => passed id before

/-- A turn that a task waits for, the number of ticks to the next one if there is one, and the job. -/
structure NextTurn (σ : Type) where
  tick : Nat
  period : Option Nat
  job : Job σ

/-- The turn that a task waits for. -/
def nextTurn (id : TaskId) : List (Moment σ) → Option (NextTurn σ)
  | [] => none
  | .scheduled other delay period job :: before =>
    if other = id then
      some ⟨clock before + max delay.toNat 1, period.map fun period => max period.toNat 1, job⟩
    else nextTurn id before
  | .cancelled other _ :: before => if other = id then none else nextTurn id before
  | .started other _ :: before =>
    if other = id then
      (nextTurn id before).bind fun turn =>
        turn.period.map fun period => ⟨clock before + period, some period, turn.job⟩
    else nextTurn id before
  | _ :: before => nextTurn id before

/-- Whether a moment gives a task this identifier. -/
def schedules (id : TaskId) : Moment σ → Bool
  | .scheduled other _ _ _ => other = id
  | _ => false

/-- How often tasks were given this identifier. -/
def timesGiven (id : TaskId) (history : List (Moment σ)) : Nat :=
  history.countP (schedules id)

/-- The number of tasks that were scheduled. -/
def taskCount : List (Moment σ) → Nat
  | [] => 0
  | .scheduled .. :: before => taskCount before + 1
  | _ :: before => taskCount before

/-- No task waits for a turn in the current tick or an earlier one. -/
def Idle (history : List (Moment σ)) : Prop :=
  ∀ id turn, nextTurn id history = some turn → clock history < turn.tick

/-- The histories of a scheduler whose tasks come from its queue, whenever their turns come. Identifiers come
round only when words do, whether a task was queued is answered truly, and only what waits for a turn
starts, with its own job. -/
inductive Orderly : List (Moment σ) → Prop where
  | nil : Orderly []
  | scheduled {id : TaskId} {delay : UInt64} {period : Option UInt64} {job : Job σ}
      {before : List (Moment σ)} (orderly : Orderly before)
      (number : id.number.toNat = taskCount before % UInt64.size) :
      Orderly (.scheduled id delay period job :: before)
  | cancelled {id : TaskId} {found : Bool} {before : List (Moment σ)} (orderly : Orderly before)
      (truly : found = (nextTurn id before).isSome) : Orderly (.cancelled id found :: before)
  | asked {id : TaskId} {queued : Bool} {before : List (Moment σ)} (orderly : Orderly before)
      (truly : queued = (nextTurn id before).isSome) : Orderly (.asked id queued :: before)
  | ticked {before : List (Moment σ)} (orderly : Orderly before) : Orderly (.ticked :: before)
  | started {id : TaskId} {turn : NextTurn σ} {before : List (Moment σ)} (orderly : Orderly before)
      (waiting : nextTurn id before = some turn) : Orderly (.started id turn.job :: before)
  | ended {before : List (Moment σ)} (orderly : Orderly before) : Orderly (.ended :: before)

/-- The histories of a scheduler that works. Identifiers come round only when words do. Whether a task
was queued is answered truly. A tick begins and ends with no turn left over. A task starts when its turn
has come, behind those that started before it in the tick and with no turn left over among the tasks in
front of it; the one exception to the first is an identifier that was given again. -/
inductive Lawful : List (Moment σ) → Prop where
  | nil : Lawful []
  | scheduled {id : TaskId} {delay : UInt64} {period : Option UInt64} {job : Job σ}
      {before : List (Moment σ)} (lawful : Lawful before)
      (number : id.number.toNat = taskCount before % UInt64.size) :
      Lawful (.scheduled id delay period job :: before)
  | cancelled {id : TaskId} {found : Bool} {before : List (Moment σ)} (lawful : Lawful before)
      (truly : found = (nextTurn id before).isSome) : Lawful (.cancelled id found :: before)
  | asked {id : TaskId} {queued : Bool} {before : List (Moment σ)} (lawful : Lawful before)
      (truly : queued = (nextTurn id before).isSome) : Lawful (.asked id queued :: before)
  | ticked {before : List (Moment σ)} (lawful : Lawful before) (idle : Idle before) :
      Lawful (.ticked :: before)
  | started {id : TaskId} {turn : NextTurn σ} {before : List (Moment σ)} (lawful : Lawful before)
      (waiting : nextTurn id before = some turn)
      (onTime : turn.tick = clock before ∨ 2 ≤ timesGiven id before)
      (inOrder : ∀ other ∈ startedInTick before, other.number < id.number)
      (noneLeft : ∀ other turn, other.number < id.number → nextTurn other before = some turn →
        clock before < turn.tick) :
      Lawful (.started id turn.job :: before)
  | ended {before : List (Moment σ)} (lawful : Lawful before) (idle : Idle before) :
      Lawful (.ended :: before)

/-- A scheduler that works takes its tasks from its queue. -/
theorem Lawful.orderly {history : List (Moment σ)} (lawful : Lawful history) : Orderly history := by
  induction lawful with
  | nil => exact .nil
  | scheduled _ number ih => exact .scheduled ih number
  | cancelled _ truly ih => exact .cancelled ih truly
  | asked _ truly ih => exact .asked ih truly
  | ticked _ _ ih => exact .ticked ih
  | started _ waiting _ _ _ ih => exact .started ih waiting
  | ended _ _ ih => exact .ended ih

/-- What was lawful in the end was lawful at every moment. -/
theorem Lawful.of_append {later past : List (Moment σ)} (lawful : Lawful (later ++ past)) :
    Lawful past := by
  induction later with
  | nil => exact lawful
  | cons moment later ih =>
      apply ih
      cases lawful <;> assumption

/-- No turn is over before its tick has come. -/
theorem passed_le_clock (id : TaskId) (history : List (Moment σ)) :
    passed id history ≤ clock history := by
  induction history with
  | nil => exact Nat.le_refl 0
  | cons moment before ih =>
      cases moment with
      | ticked => exact Nat.le_succ _
      | started other =>
          simp only [passed, clock]
          split
          · exact Nat.le_refl _
          · exact ih
      | ended => exact Nat.le_refl _
      | scheduled | overflowed | cancelled | asked => exact ih

@[simp] theorem timesGiven_cons (id : TaskId) (moment : Moment σ) (before : List (Moment σ)) :
    timesGiven id (moment :: before)
      = timesGiven id before + if schedules id moment then 1 else 0 :=
  List.countP_cons

/-- As long as words suffice to number the tasks, the identifiers given are below the number of tasks. -/
theorem Orderly.number_lt {id : TaskId} {history : List (Moment σ)} (orderly : Orderly history)
    (few : taskCount history ≤ UInt64.size) (given : 0 < timesGiven id history) :
    id.number.toNat < taskCount history := by
  induction orderly with
  | nil => cases given
  | @scheduled other _ _ _ before _ number ih =>
      rw [taskCount] at few ⊢
      rw [timesGiven_cons] at given
      by_cases same : other = id
      · rw [← same, number, Nat.mod_eq_of_lt few]
        exact Nat.lt_succ_self _
      · have earlier : 0 < timesGiven id before := by simpa [schedules, same] using given
        exact Nat.lt_succ_of_lt (ih (Nat.le_of_succ_le few) earlier)
  | cancelled _ _ ih => exact ih few given
  | asked _ _ ih => exact ih few given
  | ticked _ ih => exact ih few given
  | started _ _ ih => exact ih few given
  | ended _ ih => exact ih few given

/-- As long as words suffice to number the tasks, a new identifier was not given before. -/
theorem Orderly.fresh {id : TaskId} {history : List (Moment σ)} (orderly : Orderly history)
    (few : taskCount history < UInt64.size)
    (number : id.number.toNat = taskCount history % UInt64.size) : timesGiven id history = 0 := by
  apply Nat.eq_zero_of_not_pos
  intro given
  have less := orderly.number_lt (Nat.le_of_lt few) given
  rw [number, Nat.mod_eq_of_lt few] at less
  exact Nat.lt_irrefl _ less

/-- As long as words suffice to number the tasks, no identifier is given twice. -/
theorem Orderly.timesGiven_le_one {history : List (Moment σ)} (orderly : Orderly history)
    (few : taskCount history ≤ UInt64.size) (id : TaskId) : timesGiven id history ≤ 1 := by
  induction orderly with
  | nil => exact Nat.zero_le 1
  | @scheduled other _ _ _ before orderly number ih =>
      rw [taskCount] at few
      rw [timesGiven_cons]
      by_cases same : other = id
      · have new : timesGiven id before = 0 := orderly.fresh few (same ▸ number)
        simp [schedules, same, new]
      · simpa [schedules, same] using ih (Nat.le_of_succ_le few)
  | cancelled _ _ ih => exact ih few
  | asked _ _ ih => exact ih few
  | ticked _ ih => exact ih few
  | started _ _ ih => exact ih few
  | ended _ ih => exact ih few

/-- What waits for a turn was scheduled. -/
theorem timesGiven_pos_of_nextTurn {id : TaskId} {history : List (Moment σ)} {turn : NextTurn σ}
    (waiting : nextTurn id history = some turn) : 0 < timesGiven id history := by
  induction history generalizing turn with
  | nil => cases waiting
  | cons moment before ih =>
      rw [timesGiven_cons]
      cases moment with
      | scheduled other =>
          rw [nextTurn] at waiting
          split at waiting
          · next same => simp [schedules, same]
          · exact Nat.add_pos_left (ih waiting) _
      | cancelled other =>
          rw [nextTurn] at waiting
          split at waiting
          · cases waiting
          · exact Nat.add_pos_left (ih waiting) _
      | started other =>
          rw [nextTurn] at waiting
          split at waiting
          · obtain ⟨earlier, found, -⟩ := Option.bind_eq_some_iff.1 waiting
            exact Nat.add_pos_left (ih found) _
          · exact Nat.add_pos_left (ih waiting) _
      | overflowed | asked | ticked | ended => exact Nat.add_pos_left (ih waiting) _

/-- A repeating task does not repeat within a tick. -/
theorem period_pos_of_nextTurn {id : TaskId} {history : List (Moment σ)} {turn : NextTurn σ}
    {period : Nat} (waiting : nextTurn id history = some turn) (repeats : turn.period = some period) :
    0 < period := by
  induction history generalizing turn with
  | nil => cases waiting
  | cons moment before ih =>
      cases moment with
      | scheduled other delay given =>
          rw [nextTurn] at waiting
          split at waiting
          · cases waiting
            obtain ⟨word, -, rfl⟩ := Option.map_eq_some_iff.1 repeats
            omega
          · exact ih waiting repeats
      | cancelled other =>
          rw [nextTurn] at waiting
          split at waiting
          · cases waiting
          · exact ih waiting repeats
      | started other =>
          rw [nextTurn] at waiting
          split at waiting
          · obtain ⟨earlier, found, again⟩ := Option.bind_eq_some_iff.1 waiting
            obtain ⟨same, kept, rfl⟩ := Option.map_eq_some_iff.1 again
            cases repeats
            exact ih found kept
          · exact ih waiting repeats
      | overflowed | asked | ticked | ended => exact ih waiting repeats

/-- Only what was scheduled starts. -/
theorem Orderly.startTicks_eq_nil {id : TaskId} {history : List (Moment σ)} (orderly : Orderly history)
    (never : timesGiven id history = 0) : startTicks id history = [] := by
  induction orderly with
  | nil => rfl
  | @started other turn before _ waiting ih =>
      rw [timesGiven_cons] at never
      rw [startTicks]
      split
      · next same =>
          subst same
          have given := timesGiven_pos_of_nextTurn waiting
          omega
      · exact ih (by omega)
  | scheduled _ _ ih => exact ih (by rw [timesGiven_cons] at never; omega)
  | cancelled _ _ ih => exact ih (by rw [timesGiven_cons] at never; omega)
  | asked _ _ ih => exact ih (by rw [timesGiven_cons] at never; omega)
  | ticked _ ih => exact ih (by rw [timesGiven_cons] at never; omega)
  | ended _ ih => exact ih (by rw [timesGiven_cons] at never; omega)

/-- A task that waits for no turn does not start again, unless its identifier is given again. -/
theorem Orderly.startTicks_of_over {later past : List (Moment σ)} {id : TaskId}
    (orderly : Orderly (later ++ past)) (gone : nextTurn id past = none)
    (never : timesGiven id later = 0) :
    startTicks id (later ++ past) = startTicks id past ∧ nextTurn id (later ++ past) = none := by
  induction later with
  | nil => exact ⟨rfl, gone⟩
  | cons moment later ih =>
      rw [timesGiven_cons] at never
      have none_later : timesGiven id later = 0 := by omega
      rw [List.cons_append] at orderly ⊢
      cases orderly with
      | @scheduled other _ _ _ _ orderly _ =>
          have apart : other ≠ id := by
            intro same
            simp [schedules, same] at never
          simp only [startTicks, nextTurn, if_neg apart]
          exact ih orderly none_later
      | cancelled orderly _ =>
          obtain ⟨starts, next⟩ := ih orderly none_later
          refine ⟨starts, ?_⟩
          rw [nextTurn]
          split
          · rfl
          · exact next
      | asked orderly _ => exact ih orderly none_later
      | ticked orderly => exact ih orderly none_later
      | ended orderly => exact ih orderly none_later
      | @started other _ _ orderly waiting =>
          obtain ⟨starts, next⟩ := ih orderly none_later
          have apart : other ≠ id := by
            rintro rfl
            rw [next] at waiting
            cases waiting
          rw [startTicks, nextTurn, if_neg apart, if_neg apart]
          exact ⟨starts, next⟩

/-- The task was scheduled once, for these turns and with this job, and nobody has cancelled it since. -/
inductive Planned (id : TaskId) : Nat → Option Nat → Job σ → List (Moment σ) → Prop where
  | scheduled {delay : UInt64} {period : Option UInt64} {job : Job σ} {before : List (Moment σ)}
      (fresh : timesGiven id before = 0) :
      Planned id (clock before + max delay.toNat 1) (period.map fun period => max period.toNat 1) job
        (.scheduled id delay period job :: before)
  | later {first : Nat} {period : Option Nat} {job : Job σ} {moment : Moment σ}
      {before : List (Moment σ)} (planned : Planned id first period job before)
      (other : schedules id moment = false) (kept : ∀ found, moment ≠ .cancelled id found) :
      Planned id first period job (moment :: before)

theorem Planned.timesGiven_eq {id : TaskId} {first : Nat} {period : Option Nat} {job : Job σ}
    {history : List (Moment σ)} (planned : Planned id first period job history) :
    timesGiven id history = 1 := by
  induction planned with
  | scheduled fresh => simp [fresh, schedules]
  | later _ other _ ih => simp [ih, other]

theorem Planned.period_pos {id : TaskId} {first length : Nat} {job : Job σ}
    {history : List (Moment σ)} (planned : Planned id first (some length) job history) :
    0 < length := by
  generalize shape : some length = period at planned
  induction planned with
  | @scheduled _ given _ _ _ =>
      cases given with
      | none => cases shape
      | some word =>
          rw [Option.map_some, Option.some.injEq] at shape
          omega
  | later _ _ _ ih => exact ih shape

/-- How far a task has come: it waits for its only turn, has had it, or has had the first so many of its
repeated turns and waits for the next one. -/
inductive Progress (first : Nat) (job : Job σ) :
    Option Nat → List Nat → Nat → Option (NextTurn σ) → Prop where
  | waiting {latest : Nat} (ahead : latest < first) :
      Progress first job none [] latest (some ⟨first, none, job⟩)
  | done {latest : Nat} (reached : first ≤ latest) : Progress first job none [first] latest none
  | repeating {period count latest : Nat} (reached : ∀ turn < count, first + turn * period ≤ latest)
      (ahead : latest < first + count * period) :
      Progress first job (some period) ((List.range count).map fun turn => first + turn * period)
        latest (some ⟨first + count * period, some period, job⟩)

namespace Progress

variable {first latest later : Nat} {job : Job σ} {period : Option Nat} {starts : List Nat}
  {next : Option (NextTurn σ)}

/-- Time goes on up to the next turn. -/
theorem advance (progress : Progress first job period starts latest next) (le : latest ≤ later)
    (before : ∀ turn, next = some turn → later < turn.tick) :
    Progress first job period starts later next := by
  cases progress with
  | waiting => exact .waiting (before _ rfl)
  | done reached => exact .done (Nat.le_trans reached le)
  | repeating reached =>
      exact .repeating (fun turn less => Nat.le_trans (reached turn less) le) (before _ rfl)

/-- The task starts at its next turn. -/
theorem start {turn : NextTurn σ} (progress : Progress first job period starts latest (some turn))
    (positive : ∀ length, period = some length → 0 < length) :
    Progress first job period (starts ++ [turn.tick]) turn.tick
      (turn.period.map fun period => ⟨turn.tick + period, some period, turn.job⟩) := by
  cases progress with
  | waiting => exact .done (Nat.le_refl first)
  | @repeating length count _ reached ahead =>
      have grown : (List.range count).map (fun turn => first + turn * length)
          ++ [first + count * length]
          = (List.range (count + 1)).map fun turn => first + turn * length := by
        rw [List.range_succ, List.map_append]
        rfl
      have next : first + count * length + length = first + (count + 1) * length := by
        rw [Nat.add_mul, Nat.one_mul, Nat.add_assoc]
      rw [Option.map_some, grown, next]
      refine .repeating ?_ ?_
      · intro turn less
        exact Nat.add_le_add_left (Nat.mul_le_mul_right _ (Nat.le_of_lt_succ less)) _
      · have longer := positive length rfl
        show first + count * length < first + (count + 1) * length
        rw [← next]
        omega

/-- A task that waits has its own job to do. -/
theorem job_eq {turn : NextTurn σ} (progress : Progress first job period starts latest (some turn)) :
    turn.job = job := by
  cases progress <;> rfl

end Progress

/-- A planned task's starts keep up with its turns. -/
theorem Lawful.progress {id : TaskId} {first : Nat} {period : Option Nat} {job : Job σ}
    {history : List (Moment σ)} (lawful : Lawful history)
    (planned : Planned id first period job history) :
    Progress first job period (startTicks id history) (passed id history)
      (nextTurn id history) := by
  induction planned with
  | @scheduled delay period job before fresh =>
      cases lawful with
      | scheduled lawful _ =>
          have early : passed id before < clock before + max delay.toNat 1 := by
            have le := passed_le_clock id before
            omega
          simp only [startTicks, passed, nextTurn, lawful.orderly.startTicks_eq_nil fresh, if_true]
          cases period with
          | none => exact .waiting early
          | some word =>
              have none_yet : ∀ turn < 0,
                  clock before + max delay.toNat 1 + turn * max word.toNat 1
                    ≤ passed id before := by
                intro turn impossible
                cases impossible
              simpa using Progress.repeating none_yet (by simpa using early)
  | @later first period job moment before planned other kept ih =>
      -- only moments at which time goes on, and the task's own starts, bring it further
      cases lawful with
      | @scheduled scheduled _ _ _ _ lawful _ =>
          have apart : scheduled ≠ id := by simpa [schedules] using other
          simp only [startTicks, passed, nextTurn, if_neg apart]
          exact ih lawful
      | @cancelled cancelled found _ lawful _ =>
          have apart : cancelled ≠ id := by
            rintro rfl
            exact kept found rfl
          simp only [startTicks, passed, nextTurn, if_neg apart]
          exact ih lawful
      | asked lawful _ => exact ih lawful
      | ticked lawful idle => exact (ih lawful).advance (passed_le_clock id before) (idle id)
      | ended lawful idle => exact (ih lawful).advance (passed_le_clock id before) (idle id)
      | @started starting turn _ lawful waiting onTime _ noneLeft =>
          by_cases same : starting = id
          · subst same
            have now : turn.tick = clock before := by
              have once := planned.timesGiven_eq
              omega
            have progress := ih lawful
            rw [waiting] at progress
            have started := progress.start fun length shape => by
              subst shape
              exact planned.period_pos
            simp only [startTicks, passed, nextTurn, if_true, UInt64.le_refl, waiting,
              Option.bind_some, ← now]
            exact started
          · simp only [startTicks, passed, nextTurn, if_neg same]
            split
            · next le =>
                have less : id.number < starting.number :=
                  UInt64.lt_of_le_of_ne le fun equal => same (congrArg TaskId.mk equal.symm)
                exact (ih lawful).advance (passed_le_clock id before)
                  fun turn found => noneLeft id turn less found
            · exact ih lawful

/-- A planned task starts its own job. -/
theorem Lawful.job_eq {id : TaskId} {first : Nat} {period : Option Nat} {job other : Job σ}
    {before : List (Moment σ)} (lawful : Lawful (.started id other :: before))
    (planned : Planned id first period job before) : other = job := by
  cases lawful with
  | started lawful waiting _ _ _ =>
      have progress := lawful.progress planned
      rw [waiting] at progress
      exact progress.job_eq

end ScriptBridge.History
