import ScriptBridge.Bus
/-!
What happens on a bus, told in order. A run of the bus is told along with a log: which callbacks come to
be subscribed, which publications begin, which callbacks each of them calls, and which number it answers
with. Leaving the log out gives the run of the bus itself, whether it comes to an end or not.
-/

namespace ScriptBridge

variable {ν σ : Type}

/-- Something that happens on a bus. A publication is named by its place in the log, where it begins. -/
inductive Happening (ν σ : Type) where
  | subscribed (key : TypeKey) (callback : ν → Reaction ν σ)
  | began (key : TypeKey) (event : ν)
  | called (publication : Nat) (callback : ν → Reaction ν σ) (event : ν)
  | answered (publication : Nat) (count : Nat)

/-- The publication that does something. -/
def Happening.publication? : Happening ν σ → Option Nat
  | .subscribed .. => none
  | .began .. => none
  | .called publication .. => some publication
  | .answered publication _ => some publication

/-- The callback that comes to be subscribed under a key. -/
def Happening.subscriber? (key : TypeKey) : Happening ν σ → Option (ν → Reaction ν σ)
  | .subscribed other callback => if other = key then some callback else none
  | _ => none

/-- What happened on a bus, in order. -/
abbrev BusLog (ν σ : Type) := List (Happening ν σ)

namespace BusLog

/-- The callbacks that came to be subscribed under a key, in order. -/
def subscribers (log : BusLog ν σ) (key : TypeKey) : List (ν → Reaction ν σ) :=
  log.filterMap (·.subscriber? key)

/-- What a publication did, in order. -/
def deeds (log : BusLog ν σ) (publication : Nat) : BusLog ν σ :=
  log.filter (·.publication? = some publication)

end BusLog

/-- A bus with its state, and what happened on it. -/
structure LoggedRun (ν σ : Type) where
  run : BusRun ν σ
  log : BusLog ν σ

/-- Adds to the log. -/
def LoggedRun.note (current : LoggedRun ν σ) (happening : Happening ν σ) : LoggedRun ν σ :=
  { current with log := current.log ++ [happening] }

/-- Publishes an event under a key and tells what happens. -/
abbrev LoggedPublisher (ν σ : Type) := TypeKey → ν → LoggedRun ν σ → Option (Nat × LoggedRun ν σ)

/-- Carries a reaction out and tells what happens. -/
def Reaction.runLogged (publish : LoggedPublisher ν σ) :
    Reaction ν σ → LoggedRun ν σ → Option (LoggedRun ν σ)
  | .done, current => some current
  | .act change next, current =>
    next.runLogged publish { current with run.state := change current.run.state }
  | .look next, current => (next current.run.state).runLogged publish current
  | .subscribe key callback next, current =>
    next.runLogged publish (LoggedRun.note
      { current with run.bus := current.run.bus.subscribe key callback } (.subscribed key callback))
  | .count key next, current => (next (current.run.bus.count key)).runLogged publish current
  | .publish key event next, current =>
    match publish key event current with
    | none => none
    | some (called, after) => (next called).runLogged publish after

namespace LoggedRun

/-- Calls callbacks with the event of a publication and tells what happens. -/
def call (publish : LoggedPublisher ν σ) (publication : Nat) (event : ν) :
    List (ν → Reaction ν σ) → LoggedRun ν σ → Option (LoggedRun ν σ)
  | [], current => some current
  | callback :: rest, current =>
    match (callback event).runLogged publish (current.note (.called publication callback event)) with
    | none => none
    | some after => call publish publication event rest after

/-- Publishes an event and tells what happens, where publications may nest `depth` deep. -/
def publish : Nat → LoggedPublisher ν σ
  | 0, _, _, _ => none
  | depth + 1, key, event, current =>
    let callbacks := current.run.bus.callbacks key
    let publication := current.log.length
    (call (publish depth) publication event callbacks (current.note (.began key event))).map
      fun after => (callbacks.length, after.note (.answered publication callbacks.length))

/-! ### Without the log -/

/-- A publisher that tells what happens does what another one does. -/
def Tells (told : LoggedPublisher ν σ) (publish : Publisher ν σ) : Prop :=
  ∀ key event current,
    (told key event current).map (Prod.map id run) = publish key event current.run

variable {told : LoggedPublisher ν σ} {publisher : Publisher ν σ}

theorem run_runLogged (tells : Tells told publisher) (reaction : Reaction ν σ)
    (current : LoggedRun ν σ) :
    (reaction.runLogged told current).map run = reaction.run publisher current.run := by
  induction reaction generalizing current with
  | done => rfl
  | act change next ih => exact ih _
  | look next ih => exact ih _ current
  | subscribe key callback next _ ih => exact ih _
  | count key next ih => exact ih _ current
  | publish key event next ih =>
      rw [Reaction.runLogged, Reaction.run, ← tells key event current]
      cases told key event current with
      | none => rfl
      | some answer => exact ih answer.1 answer.2

theorem run_call (tells : Tells told publisher) (publication : Nat) (event : ν)
    (callbacks : List (ν → Reaction ν σ)) (current : LoggedRun ν σ) :
    (call told publication event callbacks current).map run
      = BusRun.call publisher event callbacks current.run := by
  induction callbacks generalizing current with
  | nil => rfl
  | cons callback rest ih =>
      have reacted : _ = (callback event).run publisher current.run :=
        run_runLogged tells (callback event) (current.note (.called publication callback event))
      rw [call, BusRun.call, ← reacted]
      cases (callback event).runLogged told (current.note (.called publication callback event)) with
      | none => rfl
      | some after => exact ih after

/-- Publications that are told do what publications do. -/
theorem tells_publish (depth : Nat) : Tells (publish depth) (BusRun.publish (ν := ν) (σ := σ) depth) := by
  induction depth with
  | zero =>
      intro key event current
      rfl
  | succ depth ih =>
      intro key event current
      have called : _ = BusRun.call _ event _ current.run :=
        run_call ih current.log.length event (current.run.bus.callbacks key)
          (current.note (.began key event))
      rw [publish, BusRun.publish, ← called, Option.map_map, Option.map_map]
      rfl

end LoggedRun

end ScriptBridge
