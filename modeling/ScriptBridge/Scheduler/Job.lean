/-!
Jobs: what a scheduled task does when its turn comes, step by step. A job acts on the state, asks the
scheduler, schedules and cancels tasks, which are known by numbers given out in the order in which they are
scheduled, and may even advance the clock itself.
-/

namespace ScriptBridge

/-- The number of a scheduled task. -/
structure TaskId where
  number : UInt64
deriving DecidableEq, Repr, Inhabited

/-- The diagnostic text of a task's number. -/
def TaskId.debugText (id : TaskId) : String :=
  "TaskId(" ++ toString id.number ++ ")"

/-- What a task does, on a state `σ`. -/
inductive Job (σ : Type) where
  | done
  | panic
  | act (change : σ → σ) (next : Job σ)
  | look (next : σ → Job σ)
  | clock (next : UInt64 → Nat → Job σ)
  | schedule (delay : UInt64) (period : Option UInt64) (job : Job σ) (next : TaskId → Job σ)
  | cancel (id : TaskId) (next : Bool → Job σ)
  | isQueued (id : TaskId) (next : Bool → Job σ)
  | tick (next : Job σ)

/-- Does one job and then, unless that panics, another. -/
def Job.andThen {σ : Type} : Job σ → Job σ → Job σ
  | .done, second => second
  | .panic, _ => .panic
  | .act change next, second => .act change (next.andThen second)
  | .look next, second => .look fun state => (next state).andThen second
  | .clock next, second => .clock fun current pending => (next current pending).andThen second
  | .schedule delay period job next, second =>
    .schedule delay period job fun id => (next id).andThen second
  | .cancel id next, second => .cancel id fun found => (next found).andThen second
  | .isQueued id next, second => .isQueued id fun found => (next found).andThen second
  | .tick next, second => .tick (next.andThen second)

end ScriptBridge
