import ScriptBridge.Scheduler.Job
/-!
The scheduler. Tasks are counted in ticks: a task runs in the first tick that has reached its due
number, the tasks of one tick in the order of their identifiers, and a repeating task is due again a
period after the tick that runs it. Numbers of ticks and tasks are 64-bit words. A task that would be
due beyond the greatest word is not queued, though its identifier is spent, and a repeating task with
such a next turn gets no turn.
-/

namespace ScriptBridge

/-- The number of the tick that comes a wait after another, if it fits a word. -/
def laterTick? (tick wait : UInt64) : Option UInt64 :=
  if tick.toNat + wait.toNat < UInt64.size then some (tick + wait) else none

/-- A later tick is counted as natural numbers are. -/
theorem laterTick?_eq_some_iff {tick wait later : UInt64} :
    laterTick? tick wait = some later ↔ later.toNat = tick.toNat + wait.toNat := by
  unfold laterTick?
  split
  · next fits =>
    rw [Option.some.injEq, ← UInt64.toNat_inj, UInt64.toNat_add, Nat.mod_eq_of_lt fits, eq_comm]
  · next beyond =>
    have bound := later.toNat_lt_size
    simp only [reduceCtorEq, false_iff]
    omega

/-- What is said of a number that does not fit a word. -/
def overflowMessage : String := "attempt to add with overflow"

/-- A queued task. -/
structure Task (σ : Type) where
  due : UInt64
  period : Option UInt64
  job : Job σ

/-- The clock, the next identifier, and the queued tasks in the order of their identifiers. -/
structure Scheduler (σ : Type) where
  current : UInt64 := 0
  nextId : UInt64 := 0
  tasks : List (TaskId × Task σ) := []

/-- What comes of a task's turn in a tick: the task is gone by then, its next turn would be too late for
a word, or its job starts and leaves this scheduler. -/
inductive TaskTurn (σ : Type) where
  | gone
  | overflow
  | start (scheduler : Scheduler σ) (job : Job σ)

namespace Scheduler

variable {σ : Type}

/-- The number of queued tasks. -/
def pending (scheduler : Scheduler σ) : Nat :=
  scheduler.tasks.length

/-- The number of ticks so far, and that of queued tasks. -/
def counts (scheduler : Scheduler σ) : List Nat :=
  [scheduler.current.toNat, scheduler.pending]

/-- The queued task with an identifier. -/
def task? (scheduler : Scheduler σ) (id : TaskId) : Option (Task σ) :=
  (scheduler.tasks.find? (·.1 = id)).map (·.2)

/-- Whether a task will still run. -/
def isQueued (scheduler : Scheduler σ) (id : TaskId) : Bool :=
  scheduler.tasks.any (·.1 = id)

/-- Takes a task off the queue; the answer says whether it was there. -/
def cancel (scheduler : Scheduler σ) (id : TaskId) : Scheduler σ × Bool :=
  ({ scheduler with tasks := scheduler.tasks.filter (·.1 ≠ id) }, scheduler.isQueued id)

/-- Puts a task among others in the order of their identifiers, in place of one with the same. -/
def place (id : TaskId) (task : Task σ) : List (TaskId × Task σ) → List (TaskId × Task σ)
  | [] => [(id, task)]
  | (other, queued) :: rest =>
    if id = other then (id, task) :: rest
    else if id.number < other.number then (id, task) :: (other, queued) :: rest
    else (other, queued) :: place id task rest

/-- Queues a task that is due after a delay of one tick at least. There is no task if it would be due
too late for a word. -/
def enqueue (scheduler : Scheduler σ) (delay : UInt64) (period : Option UInt64) (job : Job σ) :
    Scheduler σ × Option TaskId :=
  let id : TaskId := ⟨scheduler.nextId⟩
  let scheduler := { scheduler with nextId := scheduler.nextId + 1 }
  match laterTick? scheduler.current (max delay 1) with
  | none => (scheduler, none)
  | some due =>
    ({ scheduler with tasks := place id { due, period, job } scheduler.tasks }, some id)

/-- Runs a job once after a delay. -/
def runLater (scheduler : Scheduler σ) (delay : UInt64) (job : Job σ) :
    Scheduler σ × Option TaskId :=
  scheduler.enqueue delay none job

/-- Runs a job after a delay and then again and again, a period of one tick at least apart. -/
def runRepeating (scheduler : Scheduler σ) (delay period : UInt64) (job : Job σ) :
    Scheduler σ × Option TaskId :=
  scheduler.enqueue delay (some (max period 1)) job

/-- Schedules a job, repeating if there is a period. -/
def schedule (scheduler : Scheduler σ) (delay : UInt64) (period : Option UInt64) (job : Job σ) :
    Scheduler σ × Option TaskId :=
  match period with
  | none => scheduler.runLater delay job
  | some period => scheduler.runRepeating delay period job

/-- The tasks that are due by a tick. -/
def dueBy (scheduler : Scheduler σ) (now : UInt64) : List TaskId :=
  (scheduler.tasks.filter (·.2.due ≤ now)).map (·.1)

/-- Gives a task its turn in a tick: a repeating task is set to its next turn, any other leaves the
queue. -/
def takeTurn (scheduler : Scheduler σ) (now : UInt64) (id : TaskId) : TaskTurn σ :=
  match scheduler.task? id with
  | none => .gone
  | some task =>
    match task.period with
    | none => .start (scheduler.cancel id).1 task.job
    | some period =>
      match laterTick? now period with
      | none => .overflow
      | some due =>
        let again (entry : TaskId × Task σ) : TaskId × Task σ :=
          if entry.1 = id then (entry.1, { entry.2 with due }) else entry
        .start { scheduler with tasks := scheduler.tasks.map again } task.job

/-- The diagnostic text of a scheduler. -/
def debugText (scheduler : Scheduler σ) : String :=
  "Scheduler \x7b tick: " ++ toString scheduler.current ++ ", pending: "
    ++ toString scheduler.pending ++ " \x7d"

end Scheduler

end ScriptBridge
