import ScriptBridge.Proofs.Dispatch.Course
import ScriptBridge.Script.Trigger
/-!
How effects are performed in a dispatch. A trigger performs all of its effects, each once and in order, and
each on the flag and the scene that the one before it leaves. A dispatch is told handler by handler, where
some of the handlers are triggers; these are never passed over, and one of them fails exactly if an effect
of it did.
-/

namespace ScriptBridge

/-- The scene that an effect leaves: a failure is also warned of. -/
def Effect.sceneAfter (effect : Effect) (name : String) (event : Event) (scene : Scene) : Scene :=
  let turn := effect.perform event scene
  match turn.ending with
  | .ok () => turn.state
  | .error error => Journaled.warn (.effectFailed name effect.description error) turn.state

/-- The failure that an effect's outcome is, if it is one. -/
def failure? : Except EvalError Unit → Option EvalError
  | .ok () => none
  | .error error => some error

/-- The effects of a trigger of this name are performed with these outcomes, from the event and the scene at
the beginning to those at the end: each effect once and in order, whatever came of those before it. -/
inductive Performs (name : String) :
    List Effect → Event → Scene → List (Except EvalError Unit) → Event → Scene → Prop where
  | done {event : Event} {scene : Scene} : Performs name [] event scene [] event scene
  | perform {effect : Effect} {rest : List Effect} {event last : Event} {scene final : Scene}
      {outcomes : List (Except EvalError Unit)}
      (later : Performs name rest (event.withCancelled (effect.perform event scene).cancelled)
        (effect.sceneAfter name event scene) outcomes last final) :
      Performs name (effect :: rest) event scene ((effect.perform event scene).ending :: outcomes)
        last final

/-- Effects change nothing of the event but its flag. -/
theorem Performs.withCancelled_eq {name : String} {effects : List Effect} {event last : Event}
    {scene final : Scene} {outcomes : List (Except EvalError Unit)}
    (performs : Performs name effects event scene outcomes last final) :
    event.withCancelled last.cancelled = last := by
  induction performs with
  | done => rfl
  | perform _ ih => exact ih

/-- How a trigger ends whose effects had these outcomes. -/
def endingOf (name : String) (outcomes : List (Except EvalError Unit)) : Ending :=
  match outcomes.filterMap failure? with
  | [] => .done
  | error :: errors => .failed (.trigger name (error :: errors))

namespace Trigger

/-- The next effect is performed, and its failure is added to those so far. -/
theorem runEffect_eq (name : String) (current : Running) (effect : Effect) :
    runEffect name current effect
      = { event := current.event.withCancelled
            (effect.perform current.event current.scene).cancelled
          scene := effect.sceneAfter name current.event current.scene
          failures := current.failures
            ++ (failure? (effect.perform current.event current.scene).ending).toList } := by
  simp only [runEffect, Effect.sceneAfter]
  cases (effect.perform current.event current.scene).ending with
  | ok value => simp [failure?]
  | error error => simp [failure?]

/-- A run of effects performs them, and keeps their failures. -/
theorem foldl_runEffect_performs (name : String) (effects : List Effect) (current : Running) :
    ∃ outcomes, Performs name effects current.event current.scene outcomes
        (effects.foldl (runEffect name) current).event (effects.foldl (runEffect name) current).scene
      ∧ (effects.foldl (runEffect name) current).failures
        = current.failures ++ outcomes.filterMap failure? := by
  induction effects generalizing current with
  | nil => exact ⟨[], .done, (List.append_nil _).symm⟩
  | cons effect rest ih =>
      obtain ⟨outcomes, later, failures⟩ := ih (runEffect name current effect)
      rw [List.foldl_cons, failures]
      rw [runEffect_eq] at later ⊢
      refine ⟨_, .perform later, ?_⟩
      rw [List.filterMap_cons, List.append_assoc]
      cases failure? (effect.perform current.event current.scene).ending <;> rfl

/-- The handler of a trigger as it is registered. -/
def entry (trigger : Trigger) : HandlerEntry Scene where
  key := trigger.event
  handler := trigger.handler
  info := { name := trigger.name }

/-- The scene that a trigger leaves whose effects left one with these outcomes: a failure is also warned
of. -/
def sceneAfter (trigger : Trigger) (event : Event) (outcomes : List (Except EvalError Unit))
    (left : Scene) : Scene :=
  match (endingOf trigger.name outcomes).error? trigger.name with
  | none => left
  | some error => Journaled.warn (.handlerFailed event.name error) left

/-- A trigger that is invoked performs its effects. -/
theorem entry_performs (trigger : Trigger) (event : Event) (scene : Scene) :
    ∃ outcomes left,
      Performs trigger.name trigger.effects event scene outcomes
          (event.withCancelled (trigger.entry.handler event scene).cancelled) left
        ∧ (trigger.entry.handler event scene).ending = endingOf trigger.name outcomes
        ∧ trigger.entry.stateAfter event scene = trigger.sceneAfter event outcomes left := by
  obtain ⟨outcomes, performs, failures⟩ :=
    foldl_runEffect_performs trigger.name trigger.effects { event, scene }
  have flag := performs.withCancelled_eq
  have ending : (trigger.handler event scene).ending = endingOf trigger.name outcomes := by
    rw [List.nil_append] at failures
    simp only [handler, runEffects, failures, endingOf]
    cases outcomes.filterMap failure? <;> rfl
  refine ⟨outcomes, (trigger.runEffects event scene).scene, ?_, ending, ?_⟩
  · rw [← flag] at performs
    exact performs
  · rw [HandlerEntry.stateAfter, sceneAfter, ← ending]
    rfl

end Trigger

/-- A handler's part in a dispatch: one that somebody registered, or a trigger of a script. -/
inductive Part where
  | other (entry : HandlerEntry Scene)
  | scripted (trigger : Trigger)

namespace Part

/-- The handler as it is registered. -/
def entry : Part → HandlerEntry Scene
  | .other entry => entry
  | .scripted trigger => trigger.entry

/-- The trigger, if it is one. -/
def trigger? : Part → Option Trigger
  | .other _ => none
  | .scripted trigger => some trigger

end Part

/-- What came of a part: of a handler somehow, of a trigger the outcomes of its effects. -/
inductive Played where
  | other (entry : HandlerEntry Scene) (visit : Visit)
  | scripted (trigger : Trigger) (outcomes : List (Except EvalError Unit))

namespace Played

/-- The part that was played. -/
def part : Played → Part
  | .other entry _ => .other entry
  | .scripted trigger _ => .scripted trigger

/-- What the dispatch makes of it: a trigger is always invoked. -/
def visit : Played → Visit
  | .other _ visit => visit
  | .scripted trigger outcomes => .invoked trigger.name (endingOf trigger.name outcomes)

/-- What the dispatch reports of it: of a trigger one failure with those of its effects, in order, if there
are any. -/
def error? : Played → Option HandlerError
  | .other _ visit => visit.error?
  | .scripted trigger outcomes =>
    match outcomes.filterMap failure? with
    | [] => none
    | error :: errors => some (.failed trigger.name (.trigger trigger.name (error :: errors)))

theorem error?_eq (played : Played) : played.error? = played.visit.error? := by
  cases played with
  | other entry visit => rfl
  | scripted trigger outcomes =>
      simp only [error?, visit, Visit.error?, endingOf]
      cases outcomes.filterMap failure? <;> rfl

end Played

/-- Parts are played one after the other, from the event and the scene at the beginning to those at the
end. A handler takes the course that it takes by itself, and a trigger performs its effects. -/
inductive Plays : List Played → Event → Scene → Event → Scene → Prop where
  | done {event : Event} {scene : Scene} : Plays [] event scene event scene
  | other {entry : HandlerEntry Scene} {visit : Visit} {rest : List Played} {event next last : Event}
      {scene middle final : Scene} (alone : Course [entry] event scene [visit] next middle)
      (later : Plays rest next middle last final) :
      Plays (.other entry visit :: rest) event scene last final
  | scripted {trigger : Trigger} {outcomes : List (Except EvalError Unit)} {rest : List Played}
      {event next last : Event} {scene left final : Scene}
      (performs : Performs trigger.name trigger.effects event scene outcomes next left)
      (later : Plays rest next (trigger.sceneAfter event outcomes left) last final) :
      Plays (.scripted trigger outcomes :: rest) event scene last final

/-- A course through the handlers of parts plays the parts. -/
theorem Course.plays {parts : List Part} {event last : Event} {scene final : Scene}
    {visits : List Visit} (course : Course (parts.map Part.entry) event scene visits last final) :
    ∃ played, played.map Played.part = parts ∧ played.map Played.visit = visits
      ∧ Plays played event scene last final := by
  induction parts generalizing event scene visits with
  | nil =>
      cases course
      exact ⟨[], rfl, rfl, .done⟩
  | cons part rest ih =>
      cases part with
      | other entry =>
          have course : Course (entry :: rest.map Part.entry) event scene visits last final := course
          cases course with
          | skip ignores cancelled later =>
              obtain ⟨played, rfl, rfl, plays⟩ := ih later
              exact ⟨.other entry _ :: played, rfl, rfl, .other (.skip ignores cancelled .done) plays⟩
          | invoke runs later =>
              obtain ⟨played, rfl, rfl, plays⟩ := ih later
              exact ⟨.other entry _ :: played, rfl, rfl, .other (.invoke runs .done) plays⟩
      | scripted trigger =>
          have course : Course (trigger.entry :: rest.map Part.entry) event scene visits last final :=
            course
          cases course with
          | skip ignores _ _ => cases ignores
          | invoke _ later =>
              obtain ⟨played, rfl, rfl, plays⟩ := ih later
              obtain ⟨outcomes, left, performs, ending, after⟩ := trigger.entry_performs event scene
              rw [after] at plays
              rw [ending]
              exact ⟨.scripted trigger outcomes :: played, rfl, rfl, .scripted performs plays⟩

end ScriptBridge
