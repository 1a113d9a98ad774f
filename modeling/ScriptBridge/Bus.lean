import ScriptBridge.Table
import ScriptBridge.TypeKey
/-!
The bus of native events. Callbacks are subscribed under a key and called in the order of their
subscription. What a callback does is a `Reaction`: it may act on the state, subscribe further
callbacks and publish further events. Each publication calls the callbacks that were subscribed when
it began; `publish` counts how deep publications nest and has no answer beyond the given bound.
-/

namespace ScriptBridge

/-- What a callback does with an event, step by step. `ν` are the events and `σ` the state. -/
inductive Reaction (ν σ : Type) where
  | done
  | act (change : σ → σ) (next : Reaction ν σ)
  | look (next : σ → Reaction ν σ)
  | subscribe (key : TypeKey) (callback : ν → Reaction ν σ) (next : Reaction ν σ)
  | count (key : TypeKey) (next : Nat → Reaction ν σ)
  | publish (key : TypeKey) (event : ν) (next : Nat → Reaction ν σ)

/-- The callbacks of each key, in the order of their subscription. -/
structure Bus (ν σ : Type) where
  subscribers : Table TypeKey (List (ν → Reaction ν σ)) := {}

/-- A bus with the state that its callbacks act on. -/
structure BusRun (ν σ : Type) where
  bus : Bus ν σ
  state : σ

namespace Bus

variable {ν σ : Type}

/-- The callbacks of a key. -/
def callbacks (bus : Bus ν σ) (key : TypeKey) : List (ν → Reaction ν σ) :=
  (bus.subscribers.get? key).getD []

/-- The number of callbacks of a key. -/
def count (bus : Bus ν σ) (key : TypeKey) : Nat :=
  (bus.callbacks key).length

/-- Subscribes a callback under a key. -/
def subscribe (bus : Bus ν σ) (key : TypeKey) (callback : ν → Reaction ν σ) : Bus ν σ :=
  ⟨bus.subscribers.insert key (bus.callbacks key ++ [callback])⟩

/-- One more callback is behind the others of its key. -/
theorem callbacks_subscribe (bus : Bus ν σ) (key other : TypeKey) (callback : ν → Reaction ν σ) :
    (bus.subscribe key callback).callbacks other
      = if key = other then bus.callbacks other ++ [callback] else bus.callbacks other := by
  rw [callbacks, subscribe, Table.get?_insert]
  split
  · next same =>
      rw [same]
      rfl
  · rfl

/-- The diagnostic text of a bus. -/
def debugText (bus : Bus ν σ) : String :=
  "\x7b" ++ ", ".intercalate (bus.subscribers.entries.map fun entry =>
    entry.1.debugText ++ ": " ++ toString entry.2.length) ++ "\x7d"

end Bus

/-- Publishes an event under a key; the number is that of the callbacks called. -/
abbrev Publisher (ν σ : Type) := TypeKey → ν → BusRun ν σ → Option (Nat × BusRun ν σ)

namespace Reaction

variable {ν σ : Type}

/-- Carries a reaction out, publishing by the given means. -/
def run (publish : Publisher ν σ) : Reaction ν σ → BusRun ν σ → Option (BusRun ν σ)
  | .done, current => some current
  | .act change next, current => run publish next { current with state := change current.state }
  | .look next, current => run publish (next current.state) current
  | .subscribe key callback next, current =>
    run publish next { current with bus := current.bus.subscribe key callback }
  | .count key next, current => run publish (next (current.bus.count key)) current
  | .publish key event next, current =>
    match publish key event current with
    | none => none
    | some (called, after) => run publish (next called) after

end Reaction

namespace BusRun

variable {ν σ : Type}

/-- Calls callbacks with an event one after the other. -/
def call (publish : Publisher ν σ) (event : ν) :
    List (ν → Reaction ν σ) → BusRun ν σ → Option (BusRun ν σ)
  | [], current => some current
  | callback :: rest, current =>
    match (callback event).run publish current with
    | none => none
    | some after => call publish event rest after

/-- Publishes an event, where publications may nest `depth` deep. -/
def publish : Nat → Publisher ν σ
  | 0, _, _, _ => none
  | depth + 1, key, event, current =>
    let callbacks := current.bus.callbacks key
    (call (publish depth) event callbacks current).map (callbacks.length, ·)

end BusRun

end ScriptBridge
