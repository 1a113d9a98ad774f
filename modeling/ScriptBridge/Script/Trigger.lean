import ScriptBridge.Context
/-!
Triggers: the effects that a script runs on an event. A trigger is a handler; an effect that fails is
warned of and stops none of those after it.
-/

namespace ScriptBridge

/-- The effects of one trigger, in the order of the script, and the name of its handler. -/
structure Trigger where
  event : TypeKey
  name : String
  effects : List Effect

namespace Trigger

/-- A run of effects under way: the event with its flag, the scene, and the failures so far. -/
structure Running where
  event : Event
  scene : Scene
  failures : List EvalError := []

/-- Performs the next effect. -/
def runEffect (name : String) (current : Running) (effect : Effect) : Running :=
  let turn := effect.perform current.event current.scene
  let event := current.event.withCancelled turn.cancelled
  match turn.ending with
  | .ok () => { current with event, scene := turn.state }
  | .error error =>
    { event
      scene := Journaled.warn (.effectFailed name effect.description error) turn.state
      failures := current.failures ++ [error] }

/-- Performs all effects in order. -/
def runEffects (trigger : Trigger) (event : Event) (scene : Scene) : Running :=
  trigger.effects.foldl (runEffect trigger.name) { event, scene }

/-- The trigger as a handler, which fails if any of the effects did. -/
def handler (trigger : Trigger) : Handler Scene := fun event scene =>
  let after := trigger.runEffects event scene
  { cancelled := after.event.cancelled
    state := after.scene
    ending :=
      if after.failures.isEmpty then .done
      else .failed (.trigger trigger.name after.failures) }

/-- Registers the trigger for its event. -/
def addTo (trigger : Trigger) (context : SealedContext) : SealedContext :=
  context.addHandler trigger.event { name := trigger.name } trigger.handler

end Trigger

/-- Registers triggers in order. -/
def SealedContext.addTriggers (context : SealedContext) (triggers : List Trigger) : SealedContext :=
  triggers.foldl (fun context trigger => trigger.addTo context) context

end ScriptBridge
