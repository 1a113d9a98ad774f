import ScriptBridge.Notice
/-!
The scene on which handlers and effects act: the host's world, the journal of what happened, the
events that the host keeps beyond their dispatch, and what recording handlers have seen.
-/

namespace ScriptBridge

/-- The state that handlers and effects act on. -/
structure Scene where
  world : World
  journal : List Notice := []
  held : List Event := []
  labels : List String := []
  count : Nat := 0

namespace Scene

/-- Writes a notice at the end of the journal. -/
def note (scene : Scene) (notice : Notice) : Scene :=
  { scene with journal := scene.journal ++ [notice] }

/-- Writes notices at the end of the journal. -/
def noteAll (scene : Scene) (notices : List Notice) : Scene :=
  { scene with journal := scene.journal ++ notices }

instance : Journaled Scene where
  warn warning scene := scene.note (.warning warning)

/-- Asks the host to move an entity. -/
def teleport (scene : Scene) (entity : EntityRef) (destination : Position) : Scene :=
  let (world, accepted) := scene.world.teleport entity destination
  { scene with world }.note (.teleport entity destination accepted)

/-- Keeps an event beyond its dispatch; the answer is its place. -/
def hold (scene : Scene) (event : Event) : Scene × Nat :=
  ({ scene with held := scene.held ++ [event] }, scene.held.length)

/-- The event kept at a place. -/
def heldAt? (scene : Scene) (place : Nat) : Option Event :=
  scene.held[place]?

/-- Sets or clears the flag of the event kept at a place. -/
def setHeldFlag (scene : Scene) (place : Nat) (cancelled : Bool) : Scene :=
  { scene with held := scene.held.modify place (·.withCancelled cancelled) }

/-- The scene with an empty journal. -/
def unlogged (scene : Scene) : Scene :=
  { scene with journal := [] }

/-- The scene as if recording and counting handlers had seen nothing. -/
def withoutRecords (scene : Scene) : Scene :=
  { scene with labels := [], count := 0 }

/-- The scene with one more entity in its world. -/
def withBody (scene : Scene) (body : Body) : Scene :=
  { scene with world := scene.world.add body }

/-- Delivers a chat message. -/
def tell (scene : Scene) (recipient : EntityRef) (text : String) : Scene :=
  scene.note (.message recipient text)

end Scene

/-- What is left after something acted on an event: the event's flag, the state, and how it ended. -/
structure Turn (σ ε : Type) where
  cancelled : Bool
  state : σ
  ending : ε

/-- An effect: a description, and what it does to an event and the scene. -/
structure Effect where
  description : String
  perform : Event → Scene → Turn Scene (Except EvalError Unit)

end ScriptBridge
