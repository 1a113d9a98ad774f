import ScriptBridge.Probe.Tasks
/-!
Clocks: a scheduler of probed tasks together with a ticker that may advance it.
-/

namespace ScriptBridge.Probe

/-- A scheduler with the state of its tasks. -/
abbrev TaskRun := SchedulerRun TaskBoard

/-- A scheduler of probed tasks and a ticker. -/
structure Clock where
  run : TaskRun := { scheduler := {}, state := {} }
  ticker : ManualTicker TaskBoard := {}

namespace Clock

/-- How deep ticks may nest. -/
def nesting : Nat := 10000

/-- What was written down. -/
def journal (clock : Clock) : List TaskNotice :=
  clock.run.state.journal

/-- The clock with an empty journal. -/
def unlogged (clock : Clock) : Clock :=
  { clock with run := { clock.run with state := { clock.run.state with journal := [] } } }

/-- The number of ticks so far, and that of queued tasks. -/
def counts (clock : Clock) : List Nat :=
  clock.run.scheduler.counts

/-- The latest task with a name. -/
def task? (clock : Clock) (name : String) : Option TaskId :=
  clock.run.state.names.get? name

/-- Schedules a named task, unless it would be due too late. -/
def schedule (clock : Clock) (name : String) (delay : UInt64) (period : Option UInt64)
    (acts : List TaskAct) : Clock × Option TaskId :=
  let (run, id) := scheduleNamed name delay period acts clock.run
  ({ clock with run }, id)

/-- Takes a task off the queue. -/
def cancel (clock : Clock) (id : TaskId) : Clock × Bool :=
  let (run, found) := clock.run.cancel id
  ({ clock with run }, found)

/-- Makes a number of ticks, until one panics. -/
def tick (clock : Clock) : Nat → Option (Clock × RunEnd)
  | 0 => some (clock, .finished)
  | count + 1 =>
    match SchedulerRun.tick nesting clock.run with
    | none => none
    | some (run, .finished) => tick { clock with run } count
    | some (run, .panicked) => some ({ clock with run }, .panicked)

/-- Attaches the scheduler to the ticker, perhaps behind a hook that is written down; the answer says
whether something is attached then. -/
def attach (clock : Clock) (hooked : Bool) : Clock × Bool :=
  let tick : Job TaskBoard := .tick .done
  let hook : Job TaskBoard := .act (TaskBoard.note .hook) .done
  let board := clock.run.state
  let (ticker, state) :=
    if hooked then clock.ticker.attachBehind hook tick board else clock.ticker.attach tick board
  ({ run := { clock.run with state }, ticker }, ticker.attached.isSome)

/-- Advances the ticker once; the answer says how that ended, if anything is attached to it. -/
def advance (clock : Clock) : Option (Clock × Option RunEnd) :=
  (clock.ticker.advance nesting clock.run).map fun (run, ending) => ({ clock with run }, ending)

/-- Advances the ticker a number of times, until a tick panics. -/
def advanceBy (clock : Clock) (count : Nat) : Option (Clock × RunEnd) :=
  (clock.ticker.advanceBy nesting count clock.run).map fun (run, ending) => ({ clock with run }, ending)

end Clock

end ScriptBridge.Probe
