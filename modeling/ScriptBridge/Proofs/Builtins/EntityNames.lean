import ScriptBridge.Proofs.Builtins.Vocabulary
import ScriptBridge.Proofs.Parsing.Seclusion
/-!
Names of entities in scripts. They are written there only if the configuration says so; if it does not, a script
that moves entities is read without a look at the world, whoever is in it. The parser of entities is not asked in
scripts, positions have no written form, and what is built of entities, positions and numbers asks for nothing
else. The parser of players is asked in scripts, but only where a player is meant to stand, for which there is no
slot in these patterns: that a player is an entity counts for expressions, not for what is written out.
-/

namespace ScriptBridge.Builtins

open Parsing

/-- The types of what moves entities: whom, where to, and what positions are made of. -/
def movingTypes : List TypeKey := [.entity, .position, .number]

/-- Whether patterns compile and, once their slots are settled, ask for these types only. -/
def settlesTo (settle : Slot → Slot) (keys : List TypeKey) (sources : List String) : Bool :=
  match compilePatterns sources with
  | .ok patterns => patterns.all fun pattern =>
      (pattern.slots.map settle).all fun slot => slot.key.all (· ∈ keys)
  | .error _ => false

theorem askOnly_of_settlesTo {settle : Slot → Slot} {keys : List TypeKey} {name : String}
    {sources : List String} {compiled : List Pattern} (settles : settlesTo settle keys sources = true)
    (compiles : compileEntry name sources = .ok compiled) :
    ∀ pattern ∈ compiled.map (·.mapSlots settle), AskOnly (· ∈ keys) pattern.slots := by
  rw [compileEntry] at compiles
  split at compiles
  · cases compiles
  · rw [settlesTo, compiles] at settles
    intro pattern listed slot inside key typed
    obtain ⟨source, present, rfl⟩ := List.mem_map.1 listed
    rw [Pattern.slots_mapSlots] at inside
    have within := List.all_eq_true.1 (List.all_eq_true.1 settles source present) slot inside
    rw [typed] at within
    simpa using within

theorem settlesTo_movingTypes {named : Bool} : ∀ source ∈
    ["position\\(%number%, %number%, %number%[, yaw=%number%][, pitch=%number%]\\)",
      "[the] position of %entities%", "teleport %entities% to %position%"],
    settlesTo (typesWith named).slotType.settle movingTypes [source] = true := by
  cases named with
  | false => decide +kernel
  | true => decide +kernel

/-- The built-in expressions ask for nothing but what moves entities. -/
theorem askOnly_of_register {options : Options} {vocabulary : Registrar} {context : SealedContext}
    (registered : options.register {} = .ok vocabulary) (closed : vocabulary.close = .ok context) :
    ∀ entry ∈ context.registries.grammar.expressions, ∀ pattern ∈ entry.patterns,
      AskOnly (· ∈ movingTypes) pattern.slots := by
  obtain ⟨literals, positions, written, same⟩ := registries_of_register registered closed
  rw [same]
  intro entry listed
  rcases List.mem_append.1 listed with own | generated
  · simp only [expressionsWith, List.mem_cons, List.not_mem_nil, or_false] at own
    rcases own with rfl | rfl | rfl
    · exact askOnly_of_settlesTo (settlesTo_movingTypes _ (by simp)) written.literals
    · exact askOnly_of_settlesTo (settlesTo_movingTypes _ (by simp)) written.positions
    · intro pattern only slot inside
      rw [List.mem_singleton.1 only] at inside
      cases inside
  · obtain ⟨info, -, rfl⟩ := List.mem_map.1 generated
    intro pattern only slot inside
    rw [List.mem_singleton.1 only, TypeInfo.slots_eventPattern] at inside
    cases inside

/-- If names of entities are kept out of scripts, what moves entities is not written out there by the world. -/
theorem parse?_of_hidden {info : TypeInfo} (listed : info ∈ valueTypes false)
    (moving : info.key ∈ movingTypes) (world other : World) (text : String) :
    info.parse? world text .script = info.parse? other text .script := by
  simp only [valueTypes, List.mem_cons, List.not_mem_nil, or_false] at listed
  -- numbers are read off the text alone, entities are refused in scripts, and positions are refused anywhere
  rcases listed with rfl | rfl | rfl | rfl | rfl | rfl
  · rfl
  · exact absurd moving (by decide)
  · exact absurd moving (by decide)
  · rfl
  · exact absurd moving (by decide)
  · rfl

theorem secludes_of_register {options : Options} {vocabulary : Registrar} {context : SealedContext}
    (registered : options.register {} = .ok vocabulary) (closed : vocabulary.close = .ok context)
    (hidden : options.entityNamesInScripts = false) :
    context.registries.Secludes .script (· ∈ movingTypes) where
  written key info moving found world other text := by
    rw [(holds_of_register registered closed).types, hidden] at found
    have same : info.key = key := by simpa using List.find?_some found
    exact parse?_of_hidden (List.mem_of_find?_eq_some found) (same ▸ moving) world other text
  asks entry listed _ _ _ := askOnly_of_register registered closed entry listed

theorem askOnly_teleportPattern {named : Bool} :
    AskOnly (· ∈ movingTypes)
      (teleportPattern ((typesWith named).slotType.settle { index := 0, typeName := "entities" })
        ((typesWith named).slotType.settle { index := 1, typeName := "position" })).slots :=
  askOnly_of_settlesTo (settlesTo_movingTypes _ (by simp)) compile_teleport _ (List.mem_singleton.2 rfl)

/-- With names of entities kept out of scripts, a script line is read by the effect that moves entities alike in
any two worlds, whatever event is around: with the same derivations, the same match and the same effect. So is any
text that is to be an entity, a position or a number. -/
theorem entity_names_stay_out {options : Options} {vocabulary : Registrar} {context : SealedContext}
    (registered : options.register {} = .ok vocabulary) (closed : vocabulary.close = .ok context)
    (hidden : options.entityNamesInScripts = false) :
    ∃ targets destination others,
      let pattern := teleportPattern targets destination
      let teleport : EffectEntry := { name := "Teleport", patterns := [pattern], factory := teleportFactory }
      context.registries.grammar.effects = teleport :: others
      ∧ (∀ entry ∈ others, entry.name ≠ "Teleport")
      ∧ ∀ (event : Option TypeKey) (text : String) (world other : World),
          let reading : ParseOptions := { context := .script, event }
          let here := Session.ofText context.registries world reading text
          let there := Session.ofText context.registries other reading text
          (∀ way, here.Derives pattern way ↔ there.Derives pattern way)
          ∧ here.match? 0 pattern = there.match? 0 pattern
          ∧ acceptance? here teleport 0 pattern = acceptance? there teleport 0 pattern
          ∧ ∀ target ∈ [TypeKey.entity, .position, .number],
              context.registries.parseExpression world text target reading
                = context.registries.parseExpression other text target reading := by
  have secludes := secludes_of_register registered closed hidden
  refine ⟨_, _, _, (holds_of_register registered closed).effects, ?_, ?_⟩
  · intro entry listed same
    simp only [List.mem_cons, List.not_mem_nil, or_false] at listed
    rcases listed with rfl | rfl
    · exact absurd same (by decide : "Message" ≠ "Teleport")
    · exact absurd same (by decide)
  · intro event text world other
    have only := @askOnly_teleportPattern options.entityNamesInScripts
    have matched := secludes.session_match?_eq { context := .script, event } world other text only 0
    refine ⟨?_, matched, congrArg (Option.bind · _) matched, ?_⟩
    · exact secludes.derives_iff { context := .script, event } world other text only
    · intro target asked
      exact secludes.parseExpression_eq { context := .script, event } world other text asked

/-- Where a player has just joined, a line moves whoever it is, whether or not anybody is in the world; and Bob is
not called by name though he is there. -/
theorem entity_names_stay_out_of_join :
    let line := "teleport event-player to position of event-player"
    let reading : ParseOptions := { event := some .playerJoin }
    let peopled : World := { bodies := [{ id := ⟨2⟩, name := "Bob", isPlayer := true }] }
    ∃ vocabulary context teleport others pattern,
      Options.register {} {} = .ok vocabulary ∧ vocabulary.close = .ok context
      ∧ context.registries.grammar.effects = teleport :: others ∧ teleport.patterns = [pattern]
      ∧ (acceptance? (Session.ofText context.registries { bodies := [] } reading line) teleport 0
          pattern).isSome = true
      ∧ acceptance? (Session.ofText context.registries { bodies := [] } reading line) teleport 0 pattern
        = acceptance? (Session.ofText context.registries peopled reading line) teleport 0 pattern
      ∧ (context.registries.parseExpression peopled "Bob" .entity reading).isSome = false := by
  intro line reading peopled
  obtain ⟨vocabulary, context, registered, closed⟩ := register_closes {}
  obtain ⟨targets, destination, others, effects, -, alike⟩ := entity_names_stay_out registered closed rfl
  obtain ⟨-, -, acceptances, -⟩ := alike (some .playerJoin) line { bodies := [] } peopled
  obtain ⟨-, -, -, named⟩ := alike (some .playerJoin) "Bob" peopled { bodies := [] }
  have accepts : (Options.register {} {} >>= Registrar.close).toOption.all (fun context =>
      (context.registries.grammar.effects.head?.all fun entry => entry.patterns.all fun pattern =>
        (acceptance? (Session.ofText context.registries { bodies := [] } reading line) entry 0 pattern).isSome)
      && !(context.registries.parseExpression { bodies := [] } "Bob" .entity reading).isSome) = true := by
    decide +kernel
  have succeeds : Options.register {} {} >>= Registrar.close = .ok context := by
    rw [registered]
    exact closed
  rw [succeeds] at accepts
  obtain ⟨accepted, unread⟩ := Bool.and_eq_true_iff.1 accepts
  rw [effects] at accepted
  refine ⟨vocabulary, context, _, others, _, registered, closed, effects, rfl, ?_, acceptances, ?_⟩
  · simpa using accepted
  · rw [named .entity (by decide)]
    simpa using unread

end ScriptBridge.Builtins
