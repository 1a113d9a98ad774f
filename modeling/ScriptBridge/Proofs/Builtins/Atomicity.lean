import ScriptBridge.Proofs.Builtins.Vocabulary
import ScriptBridge.Proofs.Expressions.Values
/-!
The built-in effects are atomic towards the host. All that an effect needs is evaluated before it does
anything: one that fails has moved nobody, sent nothing and left the flag of the event alone. One that
succeeds has done the whole of what it says. Whoever is to be moved is asked once for each time that they
are among the targets, in order, and all to the place that the destination was when nobody had moved yet,
even if it is where one of them stands, and even if the host refuses to move some. Whoever is to be told
hears every message in order.
-/

namespace ScriptBridge

/-! ### What is done to the scene -/

namespace World

/-- The world once these have been asked to go to one place: who did not refuse is there. -/
def gather (world : World) (refs : List EntityRef) (goal : Position) : World :=
  { world with
    bodies := world.bodies.mapIdx fun place body =>
      if ⟨place⟩ ∈ refs ∧ body.refuses = false then { body with position := goal } else body }

variable {world : World} {goal : Position}

theorem gather_nil : world.gather [] goal = world := by
  have kept : world.bodies.mapIdx (fun _ body => body) = world.bodies := by
    simp [List.mapIdx_eq_zipIdx_map]
  simp [gather, kept]

/-- Whoever refused before refuses afterwards. -/
theorem refuses_gather (refs : List EntityRef) (ref : EntityRef) :
    (world.gather refs goal).refuses ref = world.refuses ref := by
  simp only [refuses, body?, gather, List.getElem?_mapIdx, Option.map_map]
  congr 2
  funext body
  simp only [Function.comp_apply]
  split <;> rfl

theorem gather_gather (refs others : List EntityRef) :
    (world.gather refs goal).gather others goal = world.gather (refs ++ others) goal := by
  simp only [gather, List.mapIdx_mapIdx, Function.comp_def, List.mem_append]
  congr 2
  funext place body
  by_cases refused : body.refuses = true
  · simp [refused]
  · by_cases first : ⟨place⟩ ∈ refs <;> simp [first, refused]

/-- Moving one is gathering one, and the answer is whether it did not refuse. -/
theorem teleport_eq (ref : EntityRef) :
    world.teleport ref goal = (world.gather [ref] goal, !world.refuses ref) := by
  have bodies : (world.gather [ref] goal).bodies
      = if world.refuses ref then world.bodies
        else world.bodies.modify ref.place fun body => { body with position := goal } := by
    apply List.ext_getElem?
    intro place
    by_cases same : ref.place = place
    · subst same
      cases here : world.bodies[ref.place]? with
      | none => simp [gather, refuses, body?, here]
      | some body => cases refused : body.refuses <;> simp [gather, refuses, body?, here, refused]
    · have differs : ¬ (⟨place⟩ : EntityRef) = ref := fun equal => same (congrArg EntityRef.place equal).symm
      split <;> simp [gather, same, differs]
  rw [teleport]
  split
  · next refused =>
      rw [if_pos refused] at bodies
      rw [refused]
      exact congrArg (fun bodies => ({ world with bodies }, false)) bodies.symm
  · next accepts =>
      rw [if_neg accepts] at bodies
      rw [Bool.eq_false_iff.2 accepts]
      exact congrArg (fun bodies => ({ world with bodies }, true)) bodies.symm

end World

namespace Scene

/-- The scene once these have been asked to go to one place, one after the other. -/
def gather (scene : Scene) (refs : List EntityRef) (goal : Position) : Scene :=
  { scene with
    world := scene.world.gather refs goal
    journal := scene.journal ++ refs.map fun ref => .teleport ref goal !scene.world.refuses ref }

/-- Moving one after the other is what `gather` says: nobody's refusal depends on who has moved. -/
theorem foldl_teleport (refs : List EntityRef) (goal : Position) (scene : Scene) :
    refs.foldl (fun scene ref => scene.teleport ref goal) scene = scene.gather refs goal := by
  induction refs generalizing scene with
  | nil => simp [gather, World.gather_nil]
  | cons ref rest ih =>
      rw [List.foldl_cons, ih]
      simp [teleport, note, gather, World.teleport_eq, World.gather_gather, World.refuses_gather]

theorem foldl_tell (recipient : EntityRef) (texts : List String) (scene : Scene) :
    texts.foldl (fun scene text => scene.tell recipient text) scene
      = scene.noteAll (texts.map (.message recipient)) := by
  induction texts generalizing scene with
  | nil => simp [noteAll]
  | cons text rest ih =>
      rw [List.foldl_cons, ih]
      simp [tell, note, noteAll]

theorem foldl_tellAll (recipients : List EntityRef) (texts : List String) (scene : Scene) :
    recipients.foldl
        (fun scene recipient => texts.foldl (fun scene text => scene.tell recipient text) scene) scene
      = scene.noteAll (recipients.flatMap fun recipient => texts.map (.message recipient)) := by
  simp only [foldl_tell]
  induction recipients generalizing scene with
  | nil => simp [noteAll]
  | cons recipient rest ih =>
      rw [List.foldl_cons, ih]
      simp [noteAll]

end Scene

namespace Builtins

open Parsing

/-- An effect that has done nothing if it fails. -/
def FailsClean (effect : Effect) : Prop :=
  ∀ event scene error, (effect.perform event scene).ending = .error error →
    (effect.perform event scene).state = scene
      ∧ (effect.perform event scene).cancelled = event.cancelled

/-- What a line can ask for in the words of the built-in vocabulary. -/
inductive Action where
  | teleport (targets destination : Expression)
  | message (messages : Expression) (recipients : Option Expression) (named : Bool)
  | setCancelled (cancel : Bool)

/-- The effect that does what is asked for. -/
def Action.effect : Action → Effect
  | .teleport targets destination => Builtins.teleport targets destination
  | .message messages recipients named => Builtins.message messages recipients named
  | .setCancelled cancel => Builtins.setCancelled cancel

/-- What was asked for has been done: this is how it leaves the flag of the event, and the scene. -/
inductive CarriedOut (event : Event) (scene : Scene) : Action → Bool → Scene → Prop where
  | teleport {targets destination : Expression} {refs : List EntityRef} {goal : Position}
      (moved : targets.values scene.world event = .ok (refs.map .entity))
      (reached : destination.values scene.world event = .ok [.position goal]) :
      CarriedOut event scene (.teleport targets destination) event.cancelled (scene.gather refs goal)
  | message {messages recipients : Expression} {named : Bool} {texts : List String}
      {players : List EntityRef}
      (sent : messages.values scene.world event = .ok (texts.map .text))
      (addressed : recipients.values scene.world event = .ok (players.map .player)) :
      CarriedOut event scene (.message messages (some recipients) named) event.cancelled
        (scene.noteAll (players.flatMap fun player => texts.map (.message player)))
  | unaddressed {messages : Expression} {named : Bool} {texts : List String}
      (sent : messages.values scene.world event = .ok (texts.map .text)) :
      CarriedOut event scene (.message messages none named) event.cancelled scene
  | setCancelled {cancel : Bool} (cancellable : event.cancellable = true) :
      CarriedOut event scene (.setCancelled cancel) cancel scene

section Performing

variable {event : Event} {scene state : Scene} {cancelled : Bool} {action : Action}

theorem failsClean_evaluating {α : Type} (description : String)
    (evaluate : World → Event → Except EvalError α) (act : α → Scene → Scene) :
    FailsClean (Effect.evaluating description evaluate act) := by
  intro event scene error
  simp only [Effect.evaluating]
  split
  · exact fun _ => ⟨rfl, rfl⟩
  · intro impossible
    cases impossible

theorem failsClean_setCancelled (cancel : Bool) : FailsClean (setCancelled cancel) := by
  intro event scene error
  simp only [setCancelled]
  split
  · intro impossible
    cases impossible
  · exact fun _ => ⟨rfl, rfl⟩

theorem perform_evaluating_eq_iff {α : Type} {description : String}
    {evaluate : World → Event → Except EvalError α} {act : α → Scene → Scene} :
    (Effect.evaluating description evaluate act).perform event scene = ⟨cancelled, state, .ok ()⟩
      ↔ event.cancelled = cancelled ∧ ∃ a, evaluate scene.world event = .ok a ∧ act a scene = state := by
  simp only [Effect.evaluating]
  split
  · next error fails => simp [fails]
  · next a evaluated => simp [evaluated]

open Expression ValueKind

theorem carriedOut_of_teleport {targets destination : Expression}
    (succeeds : (teleport targets destination).perform event scene = ⟨cancelled, state, .ok ()⟩) :
    CarriedOut event scene (.teleport targets destination) cancelled state := by
  obtain ⟨rfl, ⟨refs, goal⟩, evaluated, rfl⟩ := perform_evaluating_eq_iff.1 succeeds
  obtain ⟨destination, reached, evaluated⟩ := bind_eq_ok evaluated
  obtain ⟨targets, moved, same⟩ := bind_eq_ok evaluated
  cases same
  simp only [Scene.foldl_teleport]
  apply CarriedOut.teleport
  · exact (all_eq_ok_iff faithful_entity).1 moved
  · exact (require_eq_ok_iff faithful_position).1 reached

theorem carriedOut_of_message {messages : Expression} {recipients : Option Expression} {named : Bool}
    (succeeds : (message messages recipients named).perform event scene = ⟨cancelled, state, .ok ()⟩) :
    CarriedOut event scene (.message messages recipients named) cancelled state := by
  obtain ⟨rfl, ⟨texts, players⟩, evaluated, rfl⟩ := perform_evaluating_eq_iff.1 succeeds
  obtain ⟨written, sent, evaluated⟩ := bind_eq_ok evaluated
  have sent := (all_eq_ok_iff faithful_text).1 sent
  cases recipients with
  | none =>
      cases evaluated
      exact .unaddressed sent
  | some recipients =>
      obtain ⟨addressees, addressed, same⟩ := bind_eq_ok evaluated
      cases same
      simp only [Scene.foldl_tellAll]
      exact .message sent ((all_eq_ok_iff faithful_player).1 addressed)

theorem carriedOut_of_setCancelled {cancel : Bool}
    (succeeds : (setCancelled cancel).perform event scene = ⟨cancelled, state, .ok ()⟩) :
    CarriedOut event scene (.setCancelled cancel) cancelled state := by
  simp only [setCancelled] at succeeds
  split at succeeds
  · next cancellable =>
      cases succeeds
      exact .setCancelled cancellable
  · cases succeeds

theorem CarriedOut.perform_eq (carried : CarriedOut event scene action cancelled state) :
    action.effect.perform event scene = ⟨cancelled, state, .ok ()⟩ := by
  cases carried with
  | @teleport targets destination refs goal moved reached =>
      rw [Action.effect]
      refine perform_evaluating_eq_iff.2 ⟨rfl, (refs, goal), ?_, Scene.foldl_teleport ..⟩
      rw [(require_eq_ok_iff faithful_position).2 reached, (all_eq_ok_iff faithful_entity).2 moved]
      rfl
  | @message messages recipients named texts players sent addressed =>
      rw [Action.effect]
      refine perform_evaluating_eq_iff.2 ⟨rfl, (texts, players), ?_, Scene.foldl_tellAll ..⟩
      rw [(all_eq_ok_iff faithful_text).2 sent]
      show (recipients.all .player scene.world event >>= fun players => pure (texts, players)) = _
      rw [(all_eq_ok_iff faithful_player).2 addressed]
      rfl
  | @unaddressed messages named texts sent =>
      rw [Action.effect]
      refine perform_evaluating_eq_iff.2 ⟨rfl, (texts, []), ?_, rfl⟩
      rw [(all_eq_ok_iff faithful_text).2 sent]
      rfl
  | setCancelled cancellable =>
      rw [Action.effect, Builtins.setCancelled]
      exact if_pos cancellable

end Performing

namespace Action

theorem failsClean (action : Action) : FailsClean action.effect := by
  unfold effect
  cases action with
  | teleport targets destination => exact failsClean_evaluating _ _ _
  | message messages recipients named => exact failsClean_evaluating _ _ _
  | setCancelled cancel => exact failsClean_setCancelled cancel

theorem perform_eq_iff (action : Action) (event : Event) (scene : Scene) (cancelled : Bool)
    (state : Scene) : action.effect.perform event scene = ⟨cancelled, state, .ok ()⟩
      ↔ CarriedOut event scene action cancelled state := by
  refine ⟨fun succeeds => ?_, CarriedOut.perform_eq⟩
  cases action with
  | teleport targets destination => exact carriedOut_of_teleport succeeds
  | message messages recipients named => exact carriedOut_of_message succeeds
  | setCancelled cancel => exact carriedOut_of_setCancelled succeeds

end Action

/-- The built-in entries make nothing but effects that do these things. -/
theorem AreBuiltin.exists_action {entries : List EffectEntry} (builtin : AreBuiltin entries)
    {entry : EffectEntry} (listed : entry ∈ entries) {found : Match} {effect : Effect}
    (made : entry.factory found = some effect) : ∃ action : Action, effect = action.effect := by
  obtain ⟨ofTeleport, ofMessage, rfl, -, -⟩ := builtin
  simp only [List.mem_cons, List.not_mem_nil, or_false] at listed
  rcases listed with rfl | rfl | rfl
  · obtain ⟨targets, -, made⟩ := Option.bind_eq_some_iff.1 made
    obtain ⟨destination, -, made⟩ := Option.bind_eq_some_iff.1 made
    exact ⟨.teleport targets destination, (Option.some.inj made).symm⟩
  · obtain ⟨messages, -, made⟩ := Option.bind_eq_some_iff.1 made
    exact ⟨.message messages _ _, (Option.some.inj made).symm⟩
  · exact ⟨.setCancelled _, (Option.some.inj made).symm⟩

/-- What a closed registrar reads a text as was made by an entry of its effects. -/
theorem exists_factory_of_close {whole : Registrar} {context : SealedContext}
    (closed : whole.close = .ok context) {world : World} {text : String} {reading : ParseOptions}
    {effect : Effect} (parsed : (context.registries.searchEffect world text reading).effect? = some effect) :
    ∃ entry ∈ whole.grammar.effects, ∃ found, entry.factory found = some effect := by
  rw [searchEffect_effect?] at parsed
  obtain ⟨entry, listed, found, made⟩ := exists_factory_of_effectOf parsed
  have resolves := Registrar.resolves_of_close closed
  rw [resolveEffects_eq, refuseFirst_eq_ok_iff] at resolves
  rw [← resolves.2] at listed
  obtain ⟨own, member, rfl⟩ := List.mem_map.1 listed
  exact ⟨own, member, found, made⟩

/-- The effects of the built-in vocabulary are atomic. In registries with this vocabulary, an effect that a
text is read as, unless it is one that entries from elsewhere make, has done nothing if it fails; and it
succeeds just if all that it names can be evaluated before anything is done, and then has done just the
whole of it. -/
theorem effects_all_or_nothing {options : Options} {before vocabulary whole : Registrar}
    {later : List EffectEntry} {context : SealedContext} {world : World} {text : String}
    {reading : ParseOptions} {effect : Effect} (registered : options.register before = .ok vocabulary)
    (extended : whole.grammar.effects = vocabulary.grammar.effects ++ later)
    (closed : whole.close = .ok context)
    (parsed : (context.registries.searchEffect world text reading).effect? = some effect)
    (own : ∀ entry ∈ before.grammar.effects ++ later, ∀ found, entry.factory found ≠ some effect) :
    ∃ action : Action, effect = action.effect ∧ FailsClean effect
      ∧ ∀ event scene cancelled state, effect.perform event scene = ⟨cancelled, state, .ok ()⟩
          ↔ CarriedOut event scene action cancelled state := by
  obtain ⟨entry, listed, found, made⟩ := exists_factory_of_close closed parsed
  obtain ⟨entries, areBuiltin, effects⟩ := effects_of_register registered
  have isAction : ∃ action : Action, effect = action.effect := by
    rw [extended, effects, List.mem_append, List.mem_append] at listed
    rcases listed with (earlier | here) | behind
    · exact absurd made (own entry (List.mem_append_left _ earlier) found)
    · exact areBuiltin.exists_action here made
    · exact absurd made (own entry (List.mem_append_right _ behind) found)
  obtain ⟨action, rfl⟩ := isAction
  exact ⟨action, rfl, action.failsClean, action.perform_eq_iff⟩

/-- Where names of entities may be written, a line calls everybody to one of them: each is asked once, and
that the last refuses to come keeps nobody from going. -/
theorem effects_all_or_nothing_crowd :
    let options : Options := { entityNamesInScripts := true }
    let line := "teleport Bob, Ann and Cid to position of Ann"
    let scene : Scene :=
      { world.bodies :=
          [{ id := ⟨1⟩, name := "Bob", isPlayer := true },
           { id := ⟨2⟩, name := "Ann", isPlayer := true, position := { x := 1 } },
           { id := ⟨3⟩, name := "Cid", isPlayer := true, refuses := true }] }
    let event : Event := { occurrence := .scriptLoad }
    let answer : Notice → Option (EntityRef × Bool)
      | .teleport ref _ accepted => some (ref, accepted)
      | _ => none
    ∃ vocabulary context effect action state,
      options.register {} = .ok vocabulary ∧ vocabulary.close = .ok context
      ∧ (context.registries.searchEffect scene.world line {}).effect? = some effect
      ∧ effect = action.effect ∧ CarriedOut event scene action false state
      ∧ state.journal.map answer = [some (⟨0⟩, true), some (⟨1⟩, true), some (⟨2⟩, false)] := by
  intro options line scene event answer
  obtain ⟨vocabulary, context, registered, closed⟩ := register_closes options
  have succeeds : options.register {} >>= Registrar.close = .ok context := by
    rw [registered]
    exact closed
  have moves : (options.register {} >>= Registrar.close).toOption.any (fun context =>
      (context.registries.searchEffect scene.world line {}).effect?.any fun effect =>
        let turn := effect.perform event scene
        !turn.cancelled && turn.ending.isOk && turn.state.journal.map answer
          = [some (⟨0⟩, true), some (⟨1⟩, true), some (⟨2⟩, false)]) = true := by
    decide +kernel
  rw [succeeds, Except.toOption, Option.any_some] at moves
  obtain ⟨effect, parsed, moved⟩ := (Option.any_eq_true ..).1 moves
  have extended : vocabulary.grammar.effects = vocabulary.grammar.effects ++ [] :=
    (List.append_nil _).symm
  obtain ⟨action, same, -, carries⟩ := effects_all_or_nothing registered extended closed parsed (by simp)
  generalize performed : effect.perform event scene = turn at moved
  obtain ⟨cancelled, state, ending⟩ := turn
  simp only [Bool.and_eq_true, Bool.not_eq_true', decide_eq_true_eq] at moved
  obtain ⟨⟨rfl, ends⟩, answered⟩ := moved
  cases ending with
  | error error => cases ends
  | ok nothing =>
      exact ⟨vocabulary, context, effect, action, state, registered, closed, parsed, same,
        (carries event scene false state).1 performed, answered⟩

end Builtins

end ScriptBridge
