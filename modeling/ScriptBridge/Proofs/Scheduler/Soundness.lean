import ScriptBridge.Proofs.Scheduler.History
import ScriptBridge.Proofs.Scheduler.Queue
/-!
A scheduler and the history of its run. They are sound together if each queued task waits for the turn
that the history tells of; in the middle of a tick, some of the tasks that are due are still left. What a
job does keeps them sound, each turn uses up one task that is left, and a tick leaves none over.
-/

namespace ScriptBridge

open History

variable {σ : Type}

/-- The turn that a queued task waits for, if the counter came round so often. -/
def Task.turn (epoch : Nat) (task : Task σ) : NextTurn σ where
  tick := epoch * UInt64.size + task.due.toNat
  period := task.period.map UInt64.toNat
  job := task.job

/-- A scheduler and a history that tell the same, in a tick that has yet to look at some tasks. -/
structure Sound (epoch : Nat) (left : List TaskId) (scheduler : Scheduler σ)
    (history : List (Moment σ)) : Prop where
  lawful : Lawful history
  clock : History.clock history = epoch * UInt64.size + scheduler.current.toNat
  count : scheduler.nextId.toNat = taskCount history % UInt64.size
  ordered : Scheduler.Ordered scheduler.tasks
  queue : ∀ id, nextTurn id history = (scheduler.task? id).map (Task.turn epoch)
  ahead : ∀ id turn, nextTurn id history = some turn →
    History.clock history < turn.tick ∨ (turn.tick = History.clock history ∧ id ∈ left)
  onTime : ∀ id ∈ left, ∀ turn, nextTurn id history = some turn →
    turn.tick = History.clock history ∨ 2 ≤ timesGiven id history
  known : ∀ id ∈ left, 0 < timesGiven id history
  inOrder : left.Pairwise fun first second => first.number < second.number
  behind : ∀ id ∈ left, ∀ other ∈ startedInTick history, other.number < id.number

namespace Sound

variable {epoch : Nat} {left : List TaskId} {scheduler : Scheduler σ} {history : List (Moment σ)}

theorem start : Sound 0 [] ({} : Scheduler σ) [] where
  lawful := .nil
  clock := rfl
  count := rfl
  ordered := .nil
  queue _ := rfl
  ahead _ _ impossible := by cases impossible
  onTime _ impossible := by cases impossible
  known _ impossible := by cases impossible
  inOrder := .nil
  behind _ impossible := by cases impossible

theorem idle (sound : Sound epoch [] scheduler history) : Idle history := by
  intro id turn waiting
  rcases sound.ahead id turn waiting with later | ⟨-, impossible⟩
  · exact later
  · cases impossible

/-- A queued task waits for its turn. -/
theorem nextTurn_of_task? (sound : Sound epoch left scheduler history) {id : TaskId} {task : Task σ}
    (found : scheduler.task? id = some task) : nextTurn id history = some (task.turn epoch) := by
  rw [sound.queue, found, Option.map_some]

/-- Whether a task is queued shows in the history. -/
theorem isQueued_eq (sound : Sound epoch left scheduler history) (id : TaskId) :
    scheduler.isQueued id = (nextTurn id history).isSome := by
  rw [scheduler.isQueued_eq, sound.queue, Option.isSome_map]

theorem asked (sound : Sound epoch left scheduler history) (id : TaskId) :
    Sound epoch left scheduler (.asked id (scheduler.isQueued id) :: history) where
  lawful := .asked sound.lawful (sound.isQueued_eq id)
  clock := sound.clock
  count := sound.count
  ordered := sound.ordered
  queue := sound.queue
  ahead := sound.ahead
  onTime := sound.onTime
  known := sound.known
  inOrder := sound.inOrder
  behind := sound.behind

theorem cancelled (sound : Sound epoch left scheduler history) (id : TaskId) :
    Sound epoch left (scheduler.cancel id).1
      (.cancelled id (scheduler.isQueued id) :: history) where
  lawful := .cancelled sound.lawful (sound.isQueued_eq id)
  clock := sound.clock
  count := sound.count
  ordered := sound.ordered.cancel id
  queue other := by
    rw [nextTurn, Scheduler.task?_cancel]
    split
    · rfl
    · exact sound.queue other
  ahead other turn waiting := by
    rw [nextTurn] at waiting
    split at waiting
    · cases waiting
    · exact sound.ahead other turn waiting
  onTime other listed turn waiting := by
    rw [nextTurn] at waiting
    split at waiting
    · cases waiting
    · exact sound.onTime other listed turn waiting
  known := sound.known
  inOrder := sound.inOrder
  behind := sound.behind

theorem scheduled (sound : Sound epoch left scheduler history) {delay due : UInt64}
    {period : Option UInt64} {job : Job σ}
    (later : due.toNat = scheduler.current.toNat + max delay.toNat 1) :
    Sound epoch left
      { scheduler with
        nextId := scheduler.nextId + 1
        tasks := Scheduler.place ⟨scheduler.nextId⟩ ⟨due, period.map (max · 1), job⟩
          scheduler.tasks }
      (.scheduled ⟨scheduler.nextId⟩ delay period job :: history) where
  lawful := .scheduled sound.lawful sound.count
  clock := sound.clock
  count := Scheduler.toNat_add_one_of_mod sound.count
  ordered := sound.ordered.place
  queue other := by
    rw [nextTurn, Scheduler.task?_eq, Scheduler.taskIn?_place]
    split
    · rw [Option.map_some, Task.turn, later, Scheduler.map_toNat_atLeast_one, sound.clock,
        Nat.add_assoc]
    · exact sound.queue other
  ahead other turn waiting := by
    rw [nextTurn] at waiting
    split at waiting
    · cases waiting
      refine .inl ?_
      show History.clock history < History.clock history + max delay.toNat 1
      omega
    · exact sound.ahead other turn waiting
  onTime other listed turn waiting := by
    have given := sound.known other listed
    rw [nextTurn] at waiting
    rw [timesGiven_cons]
    split at waiting
    · next same =>
        -- an identifier that the tick has yet to look at has come round
        refine .inr ?_
        simp [schedules, same]
        omega
    · exact (sound.onTime other listed turn waiting).imp_right (Nat.le_add_right_of_le ·)
  known other listed := by
    rw [timesGiven_cons]
    exact Nat.add_pos_left (sound.known other listed) _
  inOrder := sound.inOrder
  behind := sound.behind

/-- A task that is gone by its turn has none left. -/
theorem gone {id : TaskId} (sound : Sound epoch (id :: left) scheduler history)
    (missing : scheduler.task? id = none) : Sound epoch left scheduler history where
  lawful := sound.lawful
  clock := sound.clock
  count := sound.count
  ordered := sound.ordered
  queue := sound.queue
  ahead other turn waiting := by
    rcases sound.ahead other turn waiting with later | ⟨now, listed⟩
    · exact .inl later
    · rcases List.mem_cons.1 listed with same | listed
      · rw [same, sound.queue, missing] at waiting
        cases waiting
      · exact .inr ⟨now, listed⟩
  onTime other listed := sound.onTime other (List.mem_cons_of_mem _ listed)
  known other listed := sound.known other (List.mem_cons_of_mem _ listed)
  inOrder := (List.pairwise_cons.1 sound.inOrder).2
  behind other listed := sound.behind other (List.mem_cons_of_mem _ listed)

/-- In front of the task that the tick looks at, no turn is left. -/
theorem noneLeft {id other : TaskId} {turn : NextTurn σ}
    (sound : Sound epoch (id :: left) scheduler history) (lower : other.number < id.number)
    (waiting : nextTurn other history = some turn) : History.clock history < turn.tick := by
  have less := (List.pairwise_cons.1 sound.inOrder).1
  rcases sound.ahead other turn waiting with later | ⟨-, listed⟩
  · exact later
  · rcases List.mem_cons.1 listed with same | listed
    · exact absurd (same ▸ lower) (UInt64.lt_irrefl _)
    · exact absurd lower (UInt64.lt_asymm (less other listed))

/-- The history of a task's turn tells of the same next turns as the queue that the turn leaves. -/
theorem queue_of_turnTaken {id : TaskId} {now : UInt64} {task : Task σ} {after : Scheduler σ}
    (sound : Sound epoch left scheduler history) (current : scheduler.current = now)
    (found : scheduler.task? id = some task)
    (taken : Scheduler.TurnTaken now id task scheduler after) (other : TaskId) :
    nextTurn other (.started id task.job :: history)
      = (after.task? other).map (Task.turn epoch) := by
  rw [nextTurn]
  split
  · next same =>
      subst same
      rw [sound.nextTurn_of_task? found, Option.bind_some]
      cases repeats : task.period with
      | none =>
          rw [taken.once repeats, Task.turn, repeats]
          rfl
      | some period =>
          obtain ⟨due, later, again⟩ := taken.again period repeats
          rw [again, Option.map_some, Task.turn, Task.turn, repeats, later, sound.clock, current,
            ← Nat.add_assoc]
          rfl
  · next apart =>
      rw [taken.others other (Ne.symm apart)]
      exact sound.queue other

/-- A task that has started has no turn left in the tick. -/
theorem ahead_of_started {id other : TaskId} {job : Job σ} {turn : NextTurn σ}
    (sound : Sound epoch (id :: left) scheduler history)
    (waiting : nextTurn other (.started id job :: history) = some turn) :
    History.clock history < turn.tick ∨ (turn.tick = History.clock history ∧ other ∈ left) := by
  rw [nextTurn] at waiting
  split at waiting
  · obtain ⟨earlier, known, again⟩ := Option.bind_eq_some_iff.1 waiting
    obtain ⟨period, repeats, shape⟩ := Option.map_eq_some_iff.1 again
    have positive := period_pos_of_nextTurn known repeats
    subst shape
    exact .inl (Nat.lt_add_of_pos_right positive)
  · next apart =>
      rcases sound.ahead other turn waiting with later | ⟨now, listed⟩
      · exact .inl later
      · rcases List.mem_cons.1 listed with same | listed
        · exact absurd same.symm apart
        · exact .inr ⟨now, listed⟩

/-- A task that takes its turn starts lawfully. -/
theorem started {id : TaskId} {now : UInt64} {task : Task σ} {after : Scheduler σ}
    (sound : Sound epoch (id :: left) scheduler history) (current : scheduler.current = now)
    (found : scheduler.task? id = some task)
    (taken : Scheduler.TurnTaken now id task scheduler after) :
    Sound epoch left after (.started id task.job :: history) := by
  obtain ⟨less, inOrder⟩ := List.pairwise_cons.1 sound.inOrder
  have waiting := sound.nextTurn_of_task? found
  exact {
    lawful := by
      refine .started sound.lawful waiting ?_ ?_ ?_
      · exact sound.onTime id (List.mem_cons_self ..) _ waiting
      · exact sound.behind id (List.mem_cons_self ..)
      · exact fun other turn lower waiting => sound.noneLeft lower waiting
    clock := by
      rw [taken.current]
      exact sound.clock
    count := by
      rw [taken.nextId]
      exact sound.count
    ordered := taken.ordered sound.ordered
    queue := sound.queue_of_turnTaken current found taken
    ahead := fun other turn waiting => sound.ahead_of_started waiting
    onTime := by
      intro other listed turn waiting
      have apart : id ≠ other := by
        intro same
        exact UInt64.lt_irrefl _ (same ▸ less other listed)
      rw [nextTurn, if_neg apart] at waiting
      exact sound.onTime other (List.mem_cons_of_mem _ listed) turn waiting
    known := fun other listed => sound.known other (List.mem_cons_of_mem _ listed)
    inOrder := inOrder
    behind := by
      intro other listed earlier started
      rcases List.mem_cons.1 started with same | started
      · rw [same]
        exact less other listed
      · exact sound.behind other (List.mem_cons_of_mem _ listed) earlier started }

/-- What is due by the next tick waits for just that tick. -/
theorem tick_of_mem_dueBy {now : UInt64} {id : TaskId} {turn : NextTurn σ}
    (sound : Sound epoch [] scheduler history)
    (clock : History.clock history + 1 = epoch * UInt64.size + now.toNat)
    (listed : id ∈ scheduler.dueBy now) (waiting : nextTurn id history = some turn) :
    turn.tick = History.clock history + 1 := by
  obtain ⟨task, found, le⟩ := sound.ordered.mem_dueBy.1 listed
  have later := sound.idle id turn waiting
  rw [sound.nextTurn_of_task? found] at waiting
  cases waiting
  have le_now : task.due.toNat ≤ now.toNat := le
  simp only [Task.turn] at later ⊢
  omega

/-- A tick begins with all tasks to look at that are due by it. -/
theorem ticked {now : UInt64} (sound : Sound epoch [] scheduler history)
    (later : laterTick? scheduler.current 1 = some now) :
    Sound epoch (scheduler.dueBy now) { scheduler with current := now } (.ticked :: history) := by
  have clock : History.clock history + 1 = epoch * UInt64.size + now.toNat := by
    rw [laterTick?_eq_some_iff.1 later, sound.clock, Nat.add_assoc]
    rfl
  exact {
    lawful := .ticked sound.lawful sound.idle
    clock := clock
    count := sound.count
    ordered := sound.ordered
    queue := sound.queue
    ahead := by
      intro id turn waiting
      have later : History.clock history < turn.tick := sound.idle id turn waiting
      rcases Nat.lt_or_ge (History.clock history + 1) turn.tick with ahead | le
      · exact .inl ahead
      · have waits : nextTurn id history = some turn := waiting
        refine .inr ⟨Nat.le_antisymm le later, sound.ordered.mem_dueBy.2 ?_⟩
        rw [sound.queue] at waits
        obtain ⟨task, found, shape⟩ := Option.map_eq_some_iff.1 waits
        subst shape
        have le_now : epoch * UInt64.size + task.due.toNat ≤ epoch * UInt64.size + now.toNat := clock ▸ le
        exact ⟨task, found, Nat.le_of_add_le_add_left le_now⟩
    onTime := fun id listed turn waiting => .inl (sound.tick_of_mem_dueBy clock listed waiting)
    known := by
      intro id listed
      obtain ⟨task, found, -⟩ := sound.ordered.mem_dueBy.1 listed
      exact timesGiven_pos_of_nextTurn (sound.nextTurn_of_task? found)
    inOrder := sound.ordered.dueBy now
    behind := by
      intro id listed other impossible
      cases impossible }

/-- No task is due beyond the greatest word. -/
theorem task?_eq_none_of_last (sound : Sound epoch [] scheduler history)
    (last : scheduler.current.toNat = UInt64.size - 1) (id : TaskId) : scheduler.task? id = none := by
  cases found : scheduler.task? id with
  | none => rfl
  | some task =>
      have ahead : History.clock history < epoch * UInt64.size + task.due.toNat :=
        sound.idle id _ (sound.nextTurn_of_task? found)
      have bound := task.due.toNat_lt_size
      rw [sound.clock, last] at ahead
      omega

/-- When the counter comes round no task is queued, so all turns stay where they are. -/
theorem cameRound (sound : Sound epoch [] scheduler history)
    (last : laterTick? scheduler.current 1 = none) :
    Sound (epoch + 1) [] { scheduler with current := scheduler.current + 1 }
      (.ticked :: history) := by
  have last := Scheduler.toNat_eq_of_laterTick?_eq_none last
  have next : (scheduler.current + 1).toNat = 0 := by
    rw [UInt64.toNat_add, last]
    rfl
  have none_queued := sound.task?_eq_none_of_last last
  have none_waits : ∀ id, nextTurn id history = none := by
    intro id
    rw [sound.queue, none_queued id]
    rfl
  exact {
    lawful := .ticked sound.lawful sound.idle
    clock := by
      show History.clock history + 1 = (epoch + 1) * UInt64.size + (scheduler.current + 1).toNat
      have whole : UInt64.size - 1 + 1 = UInt64.size := Nat.sub_add_cancel (by decide)
      rw [sound.clock, last, next, Nat.add_mul, Nat.one_mul, Nat.add_assoc, whole, Nat.add_zero]
    count := sound.count
    ordered := sound.ordered
    queue := fun id => by
      show nextTurn id history = (scheduler.task? id).map (Task.turn (epoch + 1))
      rw [none_waits, none_queued]
      rfl
    ahead := by
      intro id turn waiting
      have waits : nextTurn id history = some turn := waiting
      rw [none_waits] at waits
      cases waits
    onTime := by
      intro id impossible
      cases impossible
    known := sound.known
    inOrder := sound.inOrder
    behind := by
      intro id impossible
      cases impossible }

theorem ended (sound : Sound epoch [] scheduler history) :
    Sound epoch [] scheduler (.ended :: history) where
  lawful := .ended sound.lawful sound.idle
  clock := sound.clock
  count := sound.count
  ordered := sound.ordered
  queue := sound.queue
  ahead := sound.ahead
  onTime := sound.onTime
  known := sound.known
  inOrder := sound.inOrder
  behind := sound.behind

end Sound

end ScriptBridge
