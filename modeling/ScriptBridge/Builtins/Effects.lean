import ScriptBridge.Grammar
/-!
The built-in effects: moving entities, sending messages, and cancelling events. Everything an effect
needs is evaluated before it does anything, so one that fails has done nothing.
-/

namespace ScriptBridge.Builtins

/-- An effect that evaluates something and then acts on the scene. -/
def Effect.evaluating {α : Type} (description : String)
    (evaluate : World → Event → Except EvalError α) (act : α → Scene → Scene) : Effect where
  description
  perform event scene :=
    match evaluate scene.world event with
    | .error error => { cancelled := event.cancelled, state := scene, ending := .error error }
    | .ok a => { cancelled := event.cancelled, state := act a scene, ending := .ok () }

/-- Moves the targets to the destination, one after the other. -/
def teleport (targets destination : Expression) : Effect :=
  Effect.evaluating ("teleport " ++ targets.describe ++ " to " ++ destination.describe)
    (fun world event => do
      let destination ← destination.require .position world event
      let targets ← targets.all .entity world event
      pure (targets, destination))
    fun (targets, destination) scene =>
      targets.foldl (fun scene target => scene.teleport target destination) scene

/-- Sends every message to every recipient. Without recipients nothing is sent; `named` says that
they were named in the text. -/
def message (messages : Expression) (recipients : Option Expression) (named : Bool) : Effect :=
  Effect.evaluating
    ("message " ++ messages.describe
      ++ (match recipients, named with
          | some recipients, true => " to " ++ recipients.describe
          | _, _ => ""))
    (fun world event => do
      let messages ← messages.all .text world event
      let recipients ←
        match recipients with
        | none => pure []
        | some recipients => recipients.all .player world event
      pure (messages, recipients))
    fun (messages, recipients) scene =>
      recipients.foldl
        (fun scene recipient => messages.foldl (fun scene text => scene.tell recipient text) scene)
        scene

/-- Sets or clears the flag of the event, which must be cancellable. -/
def setCancelled (cancel : Bool) : Effect where
  description := (if cancel then "cancel" else "uncancel") ++ " the event"
  perform event scene :=
    if event.cancellable then { cancelled := cancel, state := scene, ending := .ok () }
    else
      { cancelled := event.cancelled, state := scene, ending := .error (.notCancellable event.name) }

/-- Makes the effect that moves entities. -/
def teleportFactory (found : Match) : Option Effect := do
  let targets ← found.slot? 0
  let destination ← found.slot? 1
  pure (teleport targets destination)

/-- Makes the effect that sends messages. -/
def messageFactory (found : Match) : Option Effect := do
  let messages ← found.slot? 0
  pure (message messages (found.slot? 1) (found.hasTag "recipients"))

/-- Makes the effect that cancels events or takes that back. -/
def setCancelledFactory (found : Match) : Option Effect :=
  some (setCancelled !found.hasTag "uncancel")

/-- Registers the built-in effects. -/
def addEffects (grammar : Grammar) : Except RegistrationError Grammar := do
  let grammar ← grammar.addEffect "Teleport" ["teleport %entities% to %position%"] teleportFactory
  let grammar ← grammar.addEffect "Message"
    ["(message|send) %strings% [recipients:to %players%]"] messageFactory
  grammar.addEffect "SetCancelled" ["(cancel|uncancel:uncancel) [the] event"] setCancelledFactory

end ScriptBridge.Builtins
