import Mathlib.Data.UInt
import ScriptBridge.Scheduler.Basic
/-!
The queue of a scheduler as a finite map from identifiers to tasks: what each operation changes in it.
The entries stay in the order of their identifiers, so an identifier has one task at most, and the tasks
that are due come in order too.
-/

namespace ScriptBridge.Scheduler

variable {σ : Type}

/-- Entries in the order of their identifiers, each with one of its own. -/
def Ordered (tasks : List (TaskId × Task σ)) : Prop :=
  tasks.Pairwise fun first second => first.1.number < second.1.number

/-- The task of an identifier among entries. -/
def taskIn? (id : TaskId) (tasks : List (TaskId × Task σ)) : Option (Task σ) :=
  (tasks.find? (·.1 = id)).map (·.2)

theorem task?_eq (scheduler : Scheduler σ) (id : TaskId) :
    scheduler.task? id = taskIn? id scheduler.tasks :=
  rfl

theorem taskIn?_cons (id : TaskId) (entry : TaskId × Task σ) (rest : List (TaskId × Task σ)) :
    taskIn? id (entry :: rest) = if entry.1 = id then some entry.2 else taskIn? id rest := by
  rw [taskIn?, List.find?_cons]
  split
  · next same =>
      rw [if_pos (by simpa using same)]
      rfl
  · next apart =>
      rw [if_neg (by simpa using apart)]
      rfl

/-- What is placed among others is theirs or new. -/
theorem mem_of_mem_place {id : TaskId} {task : Task σ} {entry : TaskId × Task σ}
    {tasks : List (TaskId × Task σ)} (listed : entry ∈ place id task tasks) :
    entry = (id, task) ∨ entry ∈ tasks := by
  induction tasks with
  | nil => exact .inl (List.mem_singleton.1 listed)
  | cons head rest ih =>
      rw [place] at listed
      split at listed
      · exact (List.mem_cons.1 listed).imp_right (List.mem_cons_of_mem _)
      · split at listed
        · exact List.mem_cons.1 listed
        · rcases List.mem_cons.1 listed with rfl | listed
          · exact .inr (List.mem_cons_self ..)
          · exact (ih listed).imp_right (List.mem_cons_of_mem _)

theorem taskIn?_place (id other : TaskId) (task : Task σ) (tasks : List (TaskId × Task σ)) :
    taskIn? other (place id task tasks) = if id = other then some task else taskIn? other tasks := by
  induction tasks with
  | nil => exact taskIn?_cons other (id, task) []
  | cons head rest ih =>
      obtain ⟨first, queued⟩ := head
      rw [place, taskIn?_cons other (first, queued) rest]
      split
      · next same =>
          subst same
          rw [taskIn?_cons]
          split
          · rfl
          · rfl
      · next apart =>
          split
          · rw [taskIn?_cons, taskIn?_cons]
          · rw [taskIn?_cons, ih]
            -- the entry in front is another task's
            by_cases here : first = other
            · subst here
              rw [if_pos rfl, if_neg apart, if_pos rfl]
            · rw [if_neg here, if_neg here]

theorem Ordered.place {id : TaskId} {task : Task σ} {tasks : List (TaskId × Task σ)}
    (ordered : Ordered tasks) : Ordered (place id task tasks) := by
  induction tasks with
  | nil => exact List.pairwise_singleton _ _
  | cons head rest ih =>
      obtain ⟨ahead, inOrder⟩ := List.pairwise_cons.1 ordered
      obtain ⟨first, queued⟩ := head
      rw [Scheduler.place]
      split
      · next same =>
          subst same
          exact List.pairwise_cons.2 ⟨ahead, inOrder⟩
      · next apart =>
          split
          · next less =>
              refine List.pairwise_cons.2 ⟨?_, List.pairwise_cons.2 ⟨ahead, inOrder⟩⟩
              intro entry listed
              rcases List.mem_cons.1 listed with rfl | listed
              · exact less
              · exact UInt64.lt_trans less (ahead entry listed)
          · next notLess =>
              refine List.pairwise_cons.2 ⟨?_, ih inOrder⟩
              intro entry listed
              rcases mem_of_mem_place listed with rfl | listed
              · refine UInt64.lt_of_le_of_ne (UInt64.not_lt.1 notLess) ?_
                exact fun equal => apart (congrArg TaskId.mk equal.symm)
              · exact ahead entry listed

/-- In order, the entries are the tasks of their identifiers. -/
theorem Ordered.mem_iff {id : TaskId} {task : Task σ} {tasks : List (TaskId × Task σ)}
    (ordered : Ordered tasks) : (id, task) ∈ tasks ↔ taskIn? id tasks = some task := by
  induction tasks with
  | nil => simp [taskIn?]
  | cons head rest ih =>
      obtain ⟨ahead, inOrder⟩ := List.pairwise_cons.1 ordered
      rw [taskIn?_cons, List.mem_cons]
      by_cases here : head.1 = id
      · rw [if_pos here]
        constructor
        · rintro (rfl | listed)
          · rfl
          · exact absurd (here ▸ ahead _ listed) (UInt64.lt_irrefl _)
        · intro found
          exact .inl (by rw [← here, ← Option.some.inj found])
      · rw [if_neg here, ← ih inOrder]
        constructor
        · rintro (rfl | listed)
          · exact absurd rfl here
          · exact listed
        · exact .inr

theorem taskIn?_filter (id other : TaskId) (tasks : List (TaskId × Task σ)) :
    taskIn? other (tasks.filter (·.1 ≠ id)) = if id = other then none else taskIn? other tasks := by
  induction tasks with
  | nil => simp [taskIn?]
  | cons head rest ih =>
      rw [List.filter_cons, taskIn?_cons other head rest]
      split
      · next kept =>
          rw [taskIn?_cons, ih]
          by_cases here : head.1 = other
          · have apart : id ≠ other := by
              rintro rfl
              simp [here] at kept
            rw [if_pos here, if_pos here, if_neg apart]
          · rw [if_neg here, if_neg here]
      · next dropped =>
          have same : head.1 = id := by simpa using dropped
          rw [ih, same]
          split
          · rfl
          · rfl

/-- An entry whose task is due at another time, if it is this task's. -/
def dueAgain (id : TaskId) (due : UInt64) (entry : TaskId × Task σ) : TaskId × Task σ :=
  if entry.1 = id then (entry.1, { entry.2 with due }) else entry

theorem dueAgain_fst (id : TaskId) (due : UInt64) (entry : TaskId × Task σ) :
    (dueAgain id due entry).1 = entry.1 := by
  rw [dueAgain]
  split
  · rfl
  · rfl

theorem taskIn?_dueAgain (id other : TaskId) (due : UInt64) (tasks : List (TaskId × Task σ)) :
    taskIn? other (tasks.map (dueAgain id due))
      = if id = other then (taskIn? id tasks).map fun task => { task with due }
        else taskIn? other tasks := by
  induction tasks with
  | nil => simp [taskIn?]
  | cons head rest ih =>
      rw [List.map_cons, taskIn?_cons, taskIn?_cons, taskIn?_cons, dueAgain_fst, ih]
      by_cases same : id = other
      · subst same
        simp only [if_true, dueAgain]
        split
        · rfl
        · rfl
      · rw [if_neg same, if_neg same]
        split
        · next here =>
            have apart : head.1 ≠ id := fun equal => same (equal.symm.trans here)
            rw [dueAgain, if_neg apart]
        · rfl

/-- Whether a task is queued is whether its identifier has a task. -/
theorem isQueued_eq (scheduler : Scheduler σ) (id : TaskId) :
    scheduler.isQueued id = (scheduler.task? id).isSome := by
  rw [isQueued, task?, Option.isSome_map, List.isSome_find?]

theorem task?_cancel (scheduler : Scheduler σ) (id other : TaskId) :
    (scheduler.cancel id).1.task? other = if id = other then none else scheduler.task? other :=
  taskIn?_filter id other scheduler.tasks

theorem Ordered.cancel {scheduler : Scheduler σ} (ordered : Ordered scheduler.tasks) (id : TaskId) :
    Ordered (scheduler.cancel id).1.tasks :=
  ordered.filter _

/-- The tasks that are due by a tick come in the order of their identifiers. -/
theorem Ordered.dueBy {scheduler : Scheduler σ} (ordered : Ordered scheduler.tasks) (now : UInt64) :
    (scheduler.dueBy now).Pairwise fun first second => first.number < second.number := by
  rw [Scheduler.dueBy, List.pairwise_map]
  exact ordered.filter _

theorem Ordered.mem_dueBy {scheduler : Scheduler σ} (ordered : Ordered scheduler.tasks)
    {now : UInt64} {id : TaskId} :
    id ∈ scheduler.dueBy now ↔ ∃ task, scheduler.task? id = some task ∧ task.due ≤ now := by
  rw [Scheduler.dueBy, List.mem_map]
  constructor
  · rintro ⟨⟨_, task⟩, listed, rfl⟩
    obtain ⟨queued, due⟩ := List.mem_filter.1 listed
    exact ⟨task, ordered.mem_iff.1 queued, of_decide_eq_true due⟩
  · rintro ⟨task, found, due⟩
    exact ⟨(id, task), List.mem_filter.2 ⟨ordered.mem_iff.2 found, decide_eq_true due⟩, rfl⟩

theorem eq_add_of_laterTick? {tick wait later : UInt64} (fits : laterTick? tick wait = some later) :
    later = tick + wait := by
  rw [laterTick?] at fits
  split at fits
  · exact (Option.some.inj fits).symm
  · cases fits

/-- Only the greatest word has no next one. -/
theorem toNat_eq_of_laterTick?_eq_none {tick : UInt64} (last : laterTick? tick 1 = none) :
    tick.toNat = UInt64.size - 1 := by
  have bound := tick.toNat_lt_size
  rw [laterTick?] at last
  split at last
  · cases last
  · next beyond =>
      have one : (1 : UInt64).toNat = 1 := rfl
      omega

/-- A period is one tick at least, as natural numbers are. -/
theorem map_toNat_atLeast_one (period : Option UInt64) :
    (period.map (max · 1)).map UInt64.toNat = period.map fun period => max period.toNat 1 := by
  rw [Option.map_map]
  exact congrArg period.map (funext fun word => UInt64.toNat_max word 1)

/-- A word that counts around the greatest word still does when both go on by one. -/
theorem toNat_add_one_of_mod {word : UInt64} {count : Nat} (counts : word.toNat = count % UInt64.size) :
    (word + 1).toNat = (count + 1) % UInt64.size := by
  rw [UInt64.toNat_add, counts]
  exact (Nat.add_mod count 1 UInt64.size).symm

/-- Scheduling spends an identifier and, unless the task would be due too late for a word, queues it. -/
theorem schedule_cases (scheduler : Scheduler σ) (delay : UInt64) (period : Option UInt64)
    (job : Job σ) :
    scheduler.schedule delay period job = ({ scheduler with nextId := scheduler.nextId + 1 }, none)
      ∨ ∃ due : UInt64, due.toNat = scheduler.current.toNat + max delay.toNat 1
          ∧ scheduler.schedule delay period job
              = ({ scheduler with
                    nextId := scheduler.nextId + 1
                    tasks := place ⟨scheduler.nextId⟩ ⟨due, period.map (max · 1), job⟩
                      scheduler.tasks },
                some ⟨scheduler.nextId⟩) := by
  have unfolded : scheduler.schedule delay period job
      = scheduler.enqueue delay (period.map (max · 1)) job := by
    cases period <;> rfl
  rw [unfolded, enqueue]
  cases later : laterTick? scheduler.current (max delay 1) with
  | none => exact .inl rfl
  | some due =>
      refine .inr ⟨due, ?_, rfl⟩
      rw [laterTick?_eq_some_iff.1 later, UInt64.toNat_max]
      rfl

/-- What a task's turn in a tick leaves of the queue. -/
structure TurnTaken (now : UInt64) (id : TaskId) (task : Task σ) (before after : Scheduler σ) :
    Prop where
  current : after.current = before.current
  nextId : after.nextId = before.nextId
  ordered : Ordered before.tasks → Ordered after.tasks
  others : ∀ other, other ≠ id → after.task? other = before.task? other
  once : task.period = none → after.task? id = none
  again : ∀ period, task.period = some period →
    ∃ due : UInt64, due.toNat = now.toNat + period.toNat ∧ after.task? id = some { task with due }

/-- A task that is still queued takes its turn, if its next one is not too late for a word. -/
theorem takeTurn_cases (scheduler : Scheduler σ) (now : UInt64) (id : TaskId) :
    (scheduler.task? id = none ∧ scheduler.takeTurn now id = .gone)
      ∨ scheduler.takeTurn now id = .overflow
      ∨ ∃ task after, scheduler.task? id = some task
          ∧ scheduler.takeTurn now id = .start after task.job
          ∧ TurnTaken now id task scheduler after := by
  cases found : scheduler.task? id with
  | none =>
      refine .inl ⟨rfl, ?_⟩
      rw [takeTurn, found]
  | some task =>
      refine .inr ?_
      rw [takeTurn, found]
      cases repeats : task.period with
      | none =>
          refine .inr ⟨task, (scheduler.cancel id).1, rfl, by simp only [repeats], ?_⟩
          exact {
            current := rfl
            nextId := rfl
            ordered := fun ordered => ordered.cancel id
            others := fun other apart => by rw [task?_cancel, if_neg (Ne.symm apart)]
            once := fun _ => by rw [task?_cancel, if_pos rfl]
            again := fun period impossible => by
              rw [repeats] at impossible
              cases impossible }
      | some period =>
          cases next : laterTick? now period with
          | none => exact .inl (by simp only [repeats, next])
          | some due =>
              let after : Scheduler σ :=
                { scheduler with tasks := scheduler.tasks.map (dueAgain id due) }
              refine .inr ⟨task, after, rfl, by simp only [repeats, next]; rfl, ?_⟩
              exact {
                current := rfl
                nextId := rfl
                ordered := fun ordered => by
                  refine List.pairwise_map.2 (ordered.imp fun less => ?_)
                  rw [dueAgain_fst, dueAgain_fst]
                  exact less
                others := fun other apart =>
                  (taskIn?_dueAgain id other due scheduler.tasks).trans (if_neg (Ne.symm apart))
                once := fun impossible => by
                  rw [repeats] at impossible
                  cases impossible
                again := fun given same => by
                  rw [repeats] at same
                  cases same
                  refine ⟨due, laterTick?_eq_some_iff.1 next, ?_⟩
                  rw [task?_eq, taskIn?_dueAgain, if_pos rfl, ← task?_eq, found]
                  rfl }

end ScriptBridge.Scheduler
