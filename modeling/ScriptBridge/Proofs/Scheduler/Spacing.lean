import ScriptBridge.Proofs.Scheduler.Nesting
/-!
How far apart a repeating task starts, also where jobs tick in turn. A tick gives the tasks that it found
due their turns one after another, and each turn is counted from the number of the tick that gives it.
Main statement: a turn that is given by a tick begun since the task's last start is a period later than
the tick that gave that start. So two starts that follow each other are a period apart unless another
tick had begun inside the tick that gave one of them; and there they need not be, as the last statement
shows.
-/

namespace ScriptBridge

namespace History

variable {σ : Type}

/-- The numbers of the ticks that are under way, innermost first. -/
def underWay : List (Moment σ) → List Nat
  | [] => []
  | .ticked :: before => (clock before + 1) :: underWay before
  | .ended :: before => (underWay before).tail
  | _ :: before => underWay before

/-- The number of the tick that gives turns, zero between ticks. -/
def givingTick (history : List (Moment σ)) : Nat :=
  (underWay history).headD 0

/-- The ticks from one turn of a task to the next, if the task that has this identifier repeats. -/
def period? (id : TaskId) : List (Moment σ) → Option Nat
  | [] => none
  | .scheduled other _ period _ :: before =>
    if other = id then period.map fun period => max period.toNat 1 else period? id before
  | _ :: before => period? id before

/-- When a task started: the number of the tick that gave it its turn, and that of the latest tick. -/
structure Start where
  giving : Nat
  clock : Nat

/-- The latest start of the task that has this identifier. -/
def lastStart? (id : TaskId) : List (Moment σ) → Option Start
  | [] => none
  | .scheduled other _ _ _ :: before => if other = id then none else lastStart? id before
  | .started other _ :: before =>
    if other = id then some ⟨givingTick before, clock before⟩ else lastStart? id before
  | _ :: before => lastStart? id before

theorem le_clock_of_mem_underWay {history : List (Moment σ)} {number : Nat}
    (under : number ∈ underWay history) : number ≤ clock history := by
  induction history generalizing number with
  | nil => cases under
  | cons moment before ih =>
      cases moment with
      | ticked =>
          rcases List.mem_cons.1 under with rfl | under
          · exact Nat.le_refl _
          · exact Nat.le_succ_of_le (ih under)
      | ended => exact ih (List.mem_of_mem_tail under)
      | scheduled | overflowed | cancelled | asked | started => exact ih under

theorem givingTick_le_clock (history : List (Moment σ)) : givingTick history ≤ clock history := by
  cases shape : underWay history with
  | nil => simp [givingTick, shape]
  | cons number outer =>
      have under : number ∈ underWay history := shape ▸ List.mem_cons_self ..
      simpa [givingTick, shape] using le_clock_of_mem_underWay under

theorem lastStart?_le {id : TaskId} {history : List (Moment σ)} {last : Start}
    (earlier : lastStart? id history = some last) :
    last.giving ≤ last.clock ∧ last.clock ≤ clock history := by
  induction history with
  | nil => cases earlier
  | cons moment before ih =>
      cases moment with
      | scheduled other =>
          rw [lastStart?] at earlier
          split at earlier
          · cases earlier
          · exact ih earlier
      | started other =>
          rw [lastStart?] at earlier
          split at earlier
          · cases earlier
            exact ⟨givingTick_le_clock before, Nat.le_refl _⟩
          · exact ih earlier
      | ticked => exact ⟨(ih earlier).1, Nat.le_succ_of_le (ih earlier).2⟩
      | overflowed | cancelled | asked | ended => exact ih earlier

/-- A tick may give a task its next turn: it is not the one that gave the last, and if it has begun since
then, a period lies between the two. -/
def Spaced (id : TaskId) (history : List (Moment σ)) (giving : Nat) : Prop :=
  ∀ (period : Nat) (last : Start), period? id history = some period →
    lastStart? id history = some last →
      last.giving ≠ giving ∧ (last.clock < giving → last.giving + period ≤ giving)

/-- All turns that were given to repeating tasks were spaced. -/
def AllSpaced (history : List (Moment σ)) : Prop :=
  ∀ (later before : List (Moment σ)) (id : TaskId) (job : Job σ),
    history = later ++ .started id job :: before → Spaced id before (givingTick before)

theorem AllSpaced.cons {moment : Moment σ} {before : List (Moment σ)} (spaced : AllSpaced before)
    (new : ∀ id job, moment = .started id job → Spaced id before (givingTick before)) :
    AllSpaced (moment :: before) := by
  intro later earlier id job shape
  cases later with
  | nil =>
      cases shape
      exact new id job rfl
  | cons head later =>
      cases shape
      exact spaced later earlier id job rfl

theorem AllSpaced.cons_of_ne {moment : Moment σ} {before : List (Moment σ)}
    (spaced : AllSpaced before) (other : ∀ id job, moment ≠ .started id job) :
    AllSpaced (moment :: before) := by
  apply spaced.cons
  intro id job same
  exact absurd same (other id job)

end History

open History

variable {σ : Type}

/-- What holds of a run while ticks are under way in it: the queue says of each task what the history
does, and no tick will give a turn too early. -/
structure Measured (ticks : List OpenTick) (run : SchedulerRun σ) : Prop where
  ordered : Scheduler.Ordered run.scheduler.tasks
  clock : History.clock run.history % UInt64.size = run.scheduler.current.toNat
  underWay : History.underWay run.history = ticks.map OpenTick.number
  now : ∀ tick ∈ ticks, tick.now.toNat = tick.number % UInt64.size
  distinct : (ticks.map OpenTick.number).Nodup
  nodup : ∀ tick ∈ ticks, tick.left.Nodup
  period : ∀ {id task}, run.scheduler.task? id = some task →
    period? id run.history = task.period.map UInt64.toNat
  due : ∀ {id task period last}, run.scheduler.task? id = some task →
    period? id run.history = some period → lastStart? id run.history = some last →
      task.due.toNat = last.giving % UInt64.size + period
  left : ∀ tick ∈ ticks, ∀ id ∈ tick.left, Spaced id run.history tick.number
  spaced : AllSpaced run.history

/-- A task is queued behind its turn only if it repeats, and then for a period later. -/
theorem Scheduler.TurnTaken.next {now : UInt64} {id : TaskId} {task again : Task σ}
    {before after : Scheduler σ} (taken : Scheduler.TurnTaken now id task before after)
    (queued : after.task? id = some again) :
    ∃ period : UInt64, task.period = some period ∧ again.period = some period
      ∧ again.due.toNat = now.toNat + period.toNat := by
  cases repeats : task.period with
  | none =>
      rw [taken.once repeats] at queued
      cases queued
  | some period =>
      obtain ⟨due, later, waiting⟩ := taken.again period repeats
      rw [waiting] at queued
      cases queued
      exact ⟨period, rfl, repeats, later⟩

namespace Measured

variable {ticks : List OpenTick} {run : SchedulerRun σ}

theorem start (state : σ) : Measured [] { scheduler := {}, state } where
  ordered := .nil
  clock := rfl
  underWay := rfl
  now _ impossible := by cases impossible
  distinct := .nil
  nodup _ impossible := by cases impossible
  period impossible := by cases impossible
  due impossible := by cases impossible
  left _ impossible := by cases impossible
  spaced later before id job shape := by simp at shape

theorem act (measured : Measured ticks run) (state : σ) : Measured ticks { run with state } :=
  { measured with }

theorem overflowed (measured : Measured ticks run) : Measured ticks (run.note .overflowed) :=
  { measured with spaced := measured.spaced.cons_of_ne (by simp) }

theorem isQueued (measured : Measured ticks run) (id : TaskId) :
    Measured ticks (run.isQueued id).1 :=
  { measured with spaced := measured.spaced.cons_of_ne (by simp) }

theorem cancel (measured : Measured ticks run) (id : TaskId) : Measured ticks (run.cancel id).1 where
  ordered := measured.ordered.cancel id
  clock := measured.clock
  underWay := measured.underWay
  now := measured.now
  distinct := measured.distinct
  nodup := measured.nodup
  period {other task} found := by
    have found : (run.scheduler.cancel id).1.task? other = some task := found
    rw [Scheduler.task?_cancel] at found
    split at found
    · cases found
    · exact measured.period found
  due {other task period last} found repeats earlier := by
    have found : (run.scheduler.cancel id).1.task? other = some task := found
    rw [Scheduler.task?_cancel] at found
    split at found
    · cases found
    · exact measured.due found repeats earlier
  left := measured.left
  spaced := measured.spaced.cons_of_ne (by simp)

/-- A task that takes over an identifier has not started yet. -/
theorem scheduled (measured : Measured ticks run) {delay due : UInt64} {period : Option UInt64}
    {job : Job σ} :
    Measured ticks
      ({ run with
          scheduler :=
            { run.scheduler with
              nextId := run.scheduler.nextId + 1
              tasks := Scheduler.place ⟨run.scheduler.nextId⟩ ⟨due, period.map (max · 1), job⟩
                run.scheduler.tasks } }.note
        (.scheduled ⟨run.scheduler.nextId⟩ delay period job)) where
  ordered := measured.ordered.place
  clock := measured.clock
  underWay := measured.underWay
  now := measured.now
  distinct := measured.distinct
  nodup := measured.nodup
  period {other task} found := by
    have found : Scheduler.taskIn? other (Scheduler.place _ _ run.scheduler.tasks) = some task :=
      found
    rw [Scheduler.taskIn?_place] at found
    simp only [SchedulerRun.note, period?]
    split at found
    · next same =>
        cases found
        rw [if_pos same]
        exact (Scheduler.map_toNat_atLeast_one period).symm
    · next apart =>
        rw [if_neg apart]
        exact measured.period found
  due {other task length last} found repeats earlier := by
    simp only [SchedulerRun.note, lastStart?] at earlier
    split at earlier
    · cases earlier
    · next apart =>
        have found : Scheduler.taskIn? other (Scheduler.place _ _ run.scheduler.tasks) = some task :=
          found
        rw [Scheduler.taskIn?_place, if_neg apart] at found
        simp only [SchedulerRun.note, period?, if_neg apart] at repeats
        exact measured.due found repeats earlier
  left tick under id listed := by
    intro length last repeats earlier
    simp only [SchedulerRun.note, lastStart?] at earlier
    split at earlier
    · cases earlier
    · next apart =>
        simp only [SchedulerRun.note, period?, if_neg apart] at repeats
        exact measured.left tick under id listed length last repeats earlier
  spaced := measured.spaced.cons_of_ne (by simp)

theorem schedule (measured : Measured ticks run) (delay : UInt64) (period : Option UInt64)
    (job : Job σ) : Measured ticks (run.schedule delay period job).1 := by
  rw [SchedulerRun.schedule]
  rcases run.scheduler.schedule_cases delay period job with none_fits | ⟨due, -, queued⟩
  · rw [none_fits]
    exact { measured with spaced := measured.spaced.cons_of_ne (by simp) }
  · rw [queued]
    exact measured.scheduled

/-- Once the tick has ended, the ticks around it go on. -/
theorem ended {tick : OpenTick} (measured : Measured (tick :: ticks) run) :
    Measured ticks (run.note .ended) where
  ordered := measured.ordered
  clock := measured.clock
  underWay := by
    have inner := measured.underWay
    simp only [SchedulerRun.note, History.underWay]
    rw [inner, List.map_cons, List.tail_cons]
  now other under := measured.now other (List.mem_cons_of_mem _ under)
  distinct := (List.nodup_cons.1 measured.distinct).2
  nodup other under := measured.nodup other (List.mem_cons_of_mem _ under)
  period := measured.period
  due := measured.due
  left other under := measured.left other (List.mem_cons_of_mem _ under)
  spaced := measured.spaced.cons_of_ne (by simp)

/-- The counter goes on by one, around the greatest word. -/
theorem clock_succ (measured : Measured ticks run) :
    (History.clock run.history + 1) % UInt64.size = (run.scheduler.current + 1).toNat :=
  (Scheduler.toNat_add_one_of_mod measured.clock.symm).symm

theorem number_le (measured : Measured ticks run) {tick : OpenTick} (under : tick ∈ ticks) :
    tick.number ≤ History.clock run.history := by
  apply le_clock_of_mem_underWay
  rw [measured.underWay]
  exact List.mem_map_of_mem under

/-- A distance between the places of two numbers in their rounds is one between the numbers. -/
theorem le_of_mod_add_le (size : Nat) {first later period : Nat} (le : first ≤ later)
    (rest : first % size + period ≤ later % size) : first + period ≤ later := by
  have quotient : size * (first / size) ≤ size * (later / size) :=
    Nat.mul_le_mul_left size (Nat.div_le_div_right le)
  have first_eq := Nat.div_add_mod first size
  have later_eq := Nat.div_add_mod later size
  omega

/-- A task that a new tick finds due may have its turn there. -/
theorem spaced_of_due (measured : Measured ticks run) {now : UInt64} {id : TaskId}
    (next : laterTick? run.scheduler.current 1 = some now)
    (listed : id ∈ run.scheduler.dueBy now) :
    Spaced id run.history (History.clock run.history + 1) := by
  intro period last repeats earlier
  obtain ⟨task, found, due_le⟩ := measured.ordered.mem_dueBy.1 listed
  obtain ⟨giving_le, clock_le⟩ := lastStart?_le earlier
  have due := measured.due found repeats earlier
  have now_eq : now.toNat = (History.clock run.history + 1) % UInt64.size := by
    rw [measured.clock_succ, ← Scheduler.eq_add_of_laterTick? next]
  have due_le : task.due.toNat ≤ now.toNat := due_le
  refine ⟨by omega, fun _ => ?_⟩
  apply le_of_mod_add_le UInt64.size
  · omega
  · omega

theorem begun (measured : Measured ticks run) {now : UInt64}
    (next : laterTick? run.scheduler.current 1 = some now) :
    Measured (⟨History.clock run.history + 1, now, run.scheduler.dueBy now⟩ :: ticks) run.beginTick := by
  have number := Scheduler.eq_add_of_laterTick? next
  exact {
    ordered := measured.ordered
    clock := measured.clock_succ
    underWay := by
      show (History.clock run.history + 1) :: History.underWay run.history = _
      rw [measured.underWay]
      rfl
    now := by
      intro tick under
      rcases List.mem_cons.1 under with rfl | under
      · rw [measured.clock_succ, number]
      · exact measured.now tick under
    distinct := by
      rw [List.map_cons, List.nodup_cons]
      refine ⟨?_, measured.distinct⟩
      intro listed
      obtain ⟨tick, under, same⟩ := List.mem_map.1 listed
      have le := measured.number_le under
      simp only at same
      omega
    nodup := by
      intro tick under
      rcases List.mem_cons.1 under with rfl | under
      · apply List.Pairwise.imp _ (measured.ordered.dueBy now)
        intro first second less same
        exact UInt64.lt_irrefl _ (same ▸ less)
      · exact measured.nodup tick under
    period := measured.period
    due := measured.due
    left := by
      intro tick under id listed
      rcases List.mem_cons.1 under with rfl | under
      · exact measured.spaced_of_due next listed
      · exact measured.left tick under id listed
    spaced := measured.spaced.cons_of_ne (by simp) }

/-- A tick whose number fits no word looks at no task. -/
theorem cameRound (measured : Measured ticks run) : Measured ticks (run.beginTick.note .ended) where
  ordered := measured.ordered
  clock := measured.clock_succ
  underWay := measured.underWay
  now := measured.now
  distinct := measured.distinct
  nodup := measured.nodup
  period := measured.period
  due := measured.due
  left := measured.left
  spaced := (measured.spaced.cons_of_ne (by simp)).cons_of_ne (by simp)

variable {number : Nat} {now : UInt64} {id : TaskId} {left : List TaskId}

theorem gone (measured : Measured (⟨number, now, id :: left⟩ :: ticks) run) :
    Measured (⟨number, now, left⟩ :: ticks) run where
  ordered := measured.ordered
  clock := measured.clock
  underWay := measured.underWay
  now := List.forall_mem_cons.2 (List.forall_mem_cons.1 measured.now)
  distinct := measured.distinct
  nodup := by
    obtain ⟨inner, outer⟩ := List.forall_mem_cons.1 measured.nodup
    exact List.forall_mem_cons.2 ⟨(List.nodup_cons.1 inner).2, outer⟩
  period := measured.period
  due := measured.due
  left := by
    obtain ⟨inner, outer⟩ := List.forall_mem_cons.1 measured.left
    exact List.forall_mem_cons.2 ⟨fun other listed => inner other (List.mem_cons_of_mem _ listed), outer⟩
  spaced := measured.spaced

theorem givingTick_eq {tick : OpenTick} (measured : Measured (tick :: ticks) run) :
    givingTick run.history = tick.number := by
  rw [givingTick, measured.underWay]
  rfl

/-- A start of one task says nothing about another. -/
theorem spaced_of_ne {other : TaskId} {job : Job σ} {history : List (Moment σ)} {giving : Nat}
    (apart : id ≠ other) (spaced : Spaced other history giving) :
    Spaced other (.started id job :: history) giving := by
  intro period last repeats earlier
  rw [lastStart?, if_neg apart] at earlier
  exact spaced period last repeats earlier

/-- In the ticks around it the task that starts is late, so they need not keep a distance. -/
theorem spaced_of_started {tick : OpenTick} {job : Job σ}
    (measured : Measured (tick :: ticks) run) {outer : OpenTick} (under : outer ∈ ticks) :
    Spaced id (.started id job :: run.history) outer.number := by
  intro period last repeats earlier
  rw [lastStart?, if_pos rfl, measured.givingTick_eq] at earlier
  cases earlier
  constructor
  · intro same
    apply (List.nodup_cons.1 measured.distinct).1
    exact List.mem_map.2 ⟨outer, under, same.symm⟩
  · intro later
    have le := measured.number_le (List.mem_cons_of_mem _ under)
    exact absurd le (Nat.not_le.2 later)

/-- What the open ticks have still to start keeps its distance when a task takes its turn. -/
theorem left_of_started {job : Job σ} (measured : Measured (⟨number, now, id :: left⟩ :: ticks) run) :
    ∀ tick ∈ (⟨number, now, left⟩ : OpenTick) :: ticks, ∀ other ∈ tick.left,
      Spaced other (.started id job :: run.history) tick.number := by
  obtain ⟨inner, outer⟩ := List.forall_mem_cons.1 measured.left
  obtain ⟨fresh, -⟩ := List.nodup_cons.1 (List.forall_mem_cons.1 measured.nodup).1
  refine List.forall_mem_cons.2 ⟨?_, ?_⟩
  · intro other listed
    apply spaced_of_ne
    · rintro rfl
      exact fresh listed
    · exact inner other (List.mem_cons_of_mem _ listed)
  · intro tick under other listed
    by_cases same : id = other
    · subst same
      exact measured.spaced_of_started under
    · exact spaced_of_ne same (outer tick under other listed)

theorem started (measured : Measured (⟨number, now, id :: left⟩ :: ticks) run) {task : Task σ}
    {after : Scheduler σ} (found : run.scheduler.task? id = some task)
    (taken : Scheduler.TurnTaken now id task run.scheduler after) :
    Measured (⟨number, now, left⟩ :: ticks)
      ({ run with scheduler := after }.note (.started id task.job)) := by
  obtain ⟨inner, -⟩ := List.forall_mem_cons.1 measured.left
  obtain ⟨-, nodup_left⟩ := List.nodup_cons.1 (List.forall_mem_cons.1 measured.nodup).1
  have giving := measured.givingTick_eq
  exact {
    ordered := taken.ordered measured.ordered
    clock := by
      show _ = after.current.toNat
      rw [taken.current]
      exact measured.clock
    underWay := measured.underWay
    now := List.forall_mem_cons.2 (List.forall_mem_cons.1 measured.now)
    distinct := measured.distinct
    nodup := List.forall_mem_cons.2 ⟨nodup_left, (List.forall_mem_cons.1 measured.nodup).2⟩
    period := by
      intro other again queued
      have queued : after.task? other = some again := queued
      by_cases same : other = id
      · subst same
        obtain ⟨period, repeats, kept, -⟩ := taken.next queued
        show period? other run.history = _
        rw [measured.period found, repeats, kept]
      · rw [taken.others other same] at queued
        exact measured.period queued
    due := by
      intro other again length last queued repeats earlier
      have queued : after.task? other = some again := queued
      have repeats : period? other run.history = some length := repeats
      simp only [SchedulerRun.note, lastStart?] at earlier
      split at earlier
      · next same =>
          subst same
          cases earlier
          obtain ⟨period, given, -, due⟩ := taken.next queued
          rw [measured.period found, given] at repeats
          cases repeats
          rw [due, giving, (List.forall_mem_cons.1 measured.now).1]
      · next apart =>
          rw [taken.others other (Ne.symm apart)] at queued
          exact measured.due queued repeats earlier
    left := measured.left_of_started
    spaced := by
      apply measured.spaced.cons
      intro other job same
      cases same
      rw [giving]
      exact inner id (List.mem_cons_self ..) }

/-- Whatever happens in a run, it stays measured. -/
theorem nestingInvariant : NestingInvariant (Measured (σ := σ)) where
  act state measured := measured.act state
  schedule delay period job measured := measured.schedule delay period job
  cancel id measured := measured.cancel id
  isQueued id measured := measured.isQueued id
  cameRound _ measured := measured.cameRound
  begun next measured := measured.begun next
  gone _ measured := measured.gone
  overflowed measured := measured.overflowed
  started found taken measured := measured.started found taken
  ended measured := measured.ended

end Measured

/-- In every run, however its jobs tick in turn: the tick that gives a repeating task a turn is not the one
that gave it its last start, and if it has begun since that start, a period lies between these two ticks.
So the two starts are at least a period of the counter apart if, at each of them, no other tick had begun
inside the tick that gave the turn. -/
theorem spacing_of_run [Journaled σ] {depth : Nat} {jobs : List (Job σ)} {state : σ}
    {run : SchedulerRun σ}
    (ran : SchedulerRun.carryOut depth jobs { scheduler := {}, state } = some run)
    {later before : List (Moment σ)} {id : TaskId} {job : Job σ} {period : Nat} {last : Start}
    (shape : run.history = later ++ .started id job :: before)
    (repeats : period? id before = some period) (earlier : lastStart? id before = some last) :
    last.giving ≠ givingTick before
      ∧ (last.clock < givingTick before → last.giving + period ≤ givingTick before)
      ∧ (last.giving = last.clock → givingTick before = clock before →
          last.clock + period ≤ clock before) := by
  have measured := Measured.nestingInvariant.carryOut_preserves (Measured.start state) ran
  obtain ⟨another, since⟩ := measured.spaced later before id job shape period last repeats earlier
  refine ⟨another, since, ?_⟩
  intro last_latest latest
  obtain ⟨-, clock_le⟩ := lastStart?_le earlier
  -- the ticks differ, so the later one has begun since
  have begun_since : last.clock < givingTick before := by omega
  have apart := since begun_since
  omega

/-- A host with a task that ticks in turn, and one that repeats in every fifth tick. -/
def restless : List (Job Scene) :=
  [.schedule 1 none (.tick .done) fun _ => .schedule 1 (some 5) .done fun _ => .done]
    ++ List.replicate 10 (.tick .done)

/-- The tick inside the first tick gives the repeating task a turn and is counted second; then the first
tick gives it another one, at the same value of the counter. The turn after that is a period later than
the first tick, and only the last two starts are a period apart. -/
theorem spacing_of_restless :
    ∃ run, SchedulerRun.carryOut 2 restless
          { scheduler := {}, state := { world := { bodies := [] } } } = some run
      ∧ startTicks ⟨1⟩ run.history = [2, 2, 6, 11]
      ∧ ∃ later before last, run.history = later ++ .started ⟨1⟩ .done :: before
          ∧ period? ⟨1⟩ before = some 5 ∧ lastStart? ⟨1⟩ before = some last
          ∧ last.giving = last.clock ∧ givingTick before = clock before
          ∧ last.clock + 5 ≤ clock before := by
  cases ran : SchedulerRun.carryOut 2 restless
      { scheduler := {}, state := { world := { bodies := [] } } } with
  | none => cases ran
  | some run =>
      have history : some run.history = _ :=
        (congrArg (Option.map SchedulerRun.history) ran).symm.trans rfl
      have starts : startTicks ⟨1⟩ run.history = [2, 2, 6, 11] := by
        rw [Option.some.inj history]
        rfl
      have shape : run.history = [.ended] ++ .started ⟨1⟩ .done :: run.history.drop 2 := by
        rw [Option.some.inj history]
        rfl
      have repeats : period? ⟨1⟩ (run.history.drop 2) = some 5 := by
        rw [Option.some.inj history]
        rfl
      have earlier : lastStart? ⟨1⟩ (run.history.drop 2) = some ⟨6, 6⟩ := by
        rw [Option.some.inj history]
        rfl
      have latest : givingTick (run.history.drop 2) = clock (run.history.drop 2) := by
        rw [Option.some.inj history]
        rfl
      obtain ⟨-, -, apart⟩ := spacing_of_run ran shape repeats earlier
      exact ⟨run, rfl, starts, _, _, _, shape, repeats, earlier, rfl, latest, apart rfl latest⟩

end ScriptBridge
