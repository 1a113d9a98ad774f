import ScriptBridge.Builtins.Basic
import ScriptBridge.Proofs.Builtins.Commands
import ScriptBridge.Proofs.Parsing.Typing
/-!
Effects of the built-in vocabulary do not go wrong on types. Each of its types, event values and entries
gives what it is registered for, so whatever a line is read as asks its slots only for what they have. The
one effect that can be of the wrong type for an event is that which cancels events, or takes that back.
-/

namespace ScriptBridge.Builtins

open Parsing

/-! ### Types -/

theorem types_of_registerTypes {registry extended : TypeRegistry} {infos : List TypeInfo}
    (registered : registerTypes registry infos = .ok extended) :
    extended = { registry with types := registry.types ++ infos } := by
  induction infos generalizing registry with
  | nil =>
      cases registered
      rw [List.append_nil]
  | cons info rest ih =>
      rw [registerTypes] at registered
      split at registered
      · cases registered
      · next grown here =>
          rw [TypeRegistry.register] at here
          split at here
          · cases here
          · split at here
            · cases here
            · split at here
              · cases here
              · cases here
                rw [ih registered, List.append_assoc, List.singleton_append]

theorem types_of_addTypes {registry extended : TypeRegistry} {named : Bool}
    (added : addTypes registry named = .ok extended) :
    extended = { registry with types := registry.types ++ valueTypes named }.addConverter
      ValueKind.player ValueKind.entity some := by
  obtain ⟨grown, registered, same⟩ := map_eq_ok added
  rw [← same, types_of_registerTypes registered]

/-- What is made of something read is of one type. -/
theorem key_of_map {α : Type} {read : Option α} {make : α → Value} {key : TypeKey} {value : Value}
    (same : ∀ a, (make a).key = key) (made : read.map make = some value) : value.key = key := by
  obtain ⟨a, -, rfl⟩ := Option.map_eq_some_iff.1 made
  exact same a

/-- A parser that reads nothing but values of a type. -/
def Reads (parser : ValueParser) (key : TypeKey) : Prop :=
  ∀ world text context value, parser.parse world text context = some value → value.key = key

theorem numberParser_reads : Reads numberParser .number := by
  intro world text context value parsed
  exact key_of_map (fun _ => rfl) parsed

theorem stringParser_reads : Reads stringParser .text := by
  intro world text context value parsed
  cases parsed
  rfl

theorem booleanParser_reads : Reads booleanParser .boolean := by
  intro world text context value parsed
  exact key_of_map (fun _ => rfl) parsed

theorem entityParser_reads (named : Bool) : Reads (entityParser named) .entity := by
  intro world text context value parsed
  simp only [entityParser] at parsed
  split at parsed
  · exact key_of_map (fun _ => rfl) parsed
  · exact key_of_map (fun _ => rfl) parsed

theorem playerParser_reads : Reads playerParser .player := by
  intro world text context value parsed
  simp only [playerParser] at parsed
  split at parsed
  · exact key_of_map (fun _ => rfl) parsed
  · exact key_of_map (fun _ => rfl) parsed

theorem positionParser_reads : Reads positionParser .position := by
  intro world text context value parsed
  cases parsed

/-- The parser of a built-in type reads values of the type. -/
theorem parser_reads {named : Bool} {info : TypeInfo} (listed : info ∈ valueTypes named) :
    ∃ parser, info.parser = some parser ∧ Reads parser info.key := by
  simp only [valueTypes, List.mem_cons, List.not_mem_nil, or_false] at listed
  rcases listed with rfl | rfl | rfl | rfl | rfl | rfl
  · exact ⟨_, rfl, numberParser_reads⟩
  · exact ⟨_, rfl, stringParser_reads⟩
  · exact ⟨_, rfl, booleanParser_reads⟩
  · exact ⟨_, rfl, entityParser_reads named⟩
  · exact ⟨_, rfl, playerParser_reads⟩
  · exact ⟨_, rfl, positionParser_reads⟩

theorem typed_of_addTypes {types : TypeRegistry} {named : Bool}
    (added : addTypes {} named = .ok types) : types.Typed := by
  rw [types_of_addTypes added]
  constructor
  · intro info listed world text context value parsed
    obtain ⟨parser, present, reads⟩ := @parser_reads named info listed
    rw [TypeInfo.parse?, present] at parsed
    simp only at parsed
    split at parsed
    · exact reads world text context value parsed
    · cases parsed
  · -- no built-in type has a supplier of its own
    intro info listed expression custom
    simp only [TypeRegistry.addConverter, List.nil_append, valueTypes, List.mem_cons,
      List.not_mem_nil, or_false] at listed
    rcases listed with rfl | rfl | rfl | rfl | rfl | rfl
    all_goals cases custom
  · intro source target convert known value converted same
    rw [TypeRegistry.converter?, TypeRegistry.addConverter, Table.get?_insert] at known
    split at known
    · next pair =>
        cases known
        cases pair
        exact key_of_map (fun _ => rfl) same
    · cases known

/-! ### Event values -/

/-- A table of getters that give values of the type they are registered for. -/
def TypedGetters (table : GetterTable) : Prop :=
  ∀ event type getter, table.get? (event, type) = some getter →
    ∀ world ambient value, getter world ambient = some value → value.key = type

theorem typedGetters_insert {table : GetterTable} (typed : TypedGetters table) {event type : TypeKey}
    {getter : Getter} (gives : ∀ world ambient value, getter world ambient = some value →
      value.key = type) :
    TypedGetters (table.insert (event, type) (Getter.only event getter)) := by
  intro other asked found known world ambient value given
  rw [Table.get?_insert] at known
  split at known
  · next pair =>
      cases known
      cases pair
      rw [Getter.only] at given
      split at given
      · exact gives world ambient value given
      · cases given
  · exact typed other asked found known world ambient value given

/-- The getters of the built-in events give values of the type they are registered for. -/
theorem key_of_getters : ∀ registered ∈ getters, ∀ world ambient value,
    registered.2.2 world ambient = some value → value.key = registered.2.1 := by
  intro registered listed world ambient value given
  simp only [getters, List.mem_cons, List.not_mem_nil, or_false] at listed
  rcases listed with rfl | rfl | rfl | rfl | rfl | rfl | rfl | rfl | rfl | rfl
  all_goals exact key_of_map (fun _ => rfl) given

theorem typedGetters_addGetters : TypedGetters (addGetters {}) := by
  have listed (registered : List (TypeKey × TypeKey × Getter))
      (gives : ∀ entry ∈ registered, ∀ world ambient value,
        entry.2.2 world ambient = some value → value.key = entry.2.1)
      {table : GetterTable} (typed : TypedGetters table) :
      TypedGetters (registered.foldl
        (fun table entry => table.insert (entry.1, entry.2.1) (Getter.only entry.1 entry.2.2))
        table) := by
    induction registered generalizing table with
    | nil => exact typed
    | cons entry rest ih =>
        apply ih (fun other member => gives other (List.mem_cons_of_mem _ member))
        exact typedGetters_insert typed (gives entry (List.mem_cons_self ..))
  apply listed getters key_of_getters
  intro event type getter known
  cases known

theorem values_typed {table : GetterTable} (typed : TypedGetters table) (wrappers : WrapperRegistry) :
    EventValues.Typed { getters := table, wrappers } := by
  intro key world event value given
  obtain ⟨getter, listed, given⟩ := List.exists_of_findSome?_eq_some given
  obtain ⟨ancestor, -, known⟩ := List.mem_filterMap.1 listed
  exact typed ancestor key getter known world event value given

/-! ### Expressions -/

theorem not_goesWrong_angle {expression : Option Expression}
    (typed : ∀ given, expression = some given → given.HasType .number) (world : World) (event : Event) :
    ¬ GoesWrong (angle world event expression) := by
  cases expression with
  | none => exact not_goesWrong_ok _
  | some given =>
      apply not_goesWrong_map
      exact (typed given rfl).not_goesWrong_require ValueKind.covers_number world event

theorem hasType_positionLiteral {x y z : Expression} {yaw pitch : Option Expression}
    (typed_x : x.HasType .number) (typed_y : y.HasType .number) (typed_z : z.HasType .number)
    (typed_yaw : ∀ given, yaw = some given → given.HasType .number)
    (typed_pitch : ∀ given, pitch = some given → given.HasType .number) :
    (positionLiteral x y z yaw pitch).HasType .position where
  declared := rfl
  yields {world event values} evaluated := by
    simp only [positionLiteral, Expression.values] at evaluated
    obtain ⟨x, -, evaluated⟩ := bind_eq_ok evaluated
    obtain ⟨y, -, evaluated⟩ := bind_eq_ok evaluated
    obtain ⟨z, -, evaluated⟩ := bind_eq_ok evaluated
    obtain ⟨yaw, -, evaluated⟩ := bind_eq_ok evaluated
    obtain ⟨pitch, -, same⟩ := bind_eq_ok evaluated
    cases same
    intro value listed
    rw [List.mem_singleton.1 listed]
    rfl
  right world event := by
    simp only [positionLiteral, Expression.values]
    have number {given : Expression} (typed : given.HasType .number) :
        ¬ GoesWrong (given.require .number world event) :=
      typed.not_goesWrong_require ValueKind.covers_number world event
    apply not_goesWrong_bind (number typed_x)
    intro x _
    apply not_goesWrong_bind (number typed_y)
    intro y _
    apply not_goesWrong_bind (number typed_z)
    intro z _
    apply not_goesWrong_bind (not_goesWrong_angle typed_yaw world event)
    intro yaw _
    apply not_goesWrong_bind (not_goesWrong_angle typed_pitch world event)
    intro pitch _
    exact not_goesWrong_ok _

theorem hasType_positionOf {entities : Expression} (typed : entities.HasType .entity) :
    (positionOf entities).HasType .position where
  declared := rfl
  yields {world event values} evaluated := by
    simp only [positionOf, Expression.values] at evaluated
    obtain ⟨refs, -, rfl⟩ := map_eq_ok evaluated
    intro value listed
    obtain ⟨ref, -, rfl⟩ := List.mem_map.1 listed
    rfl
  right world event := by
    simp only [positionOf, Expression.values]
    apply not_goesWrong_map
    exact typed.not_goesWrong_all ValueKind.covers_entity world event

theorem hasType_chatMessage : chatMessage.HasType .text where
  declared := rfl
  yields {world event values} evaluated := by
    cases evaluated
    intro value listed
    exact key_of_map (fun _ => rfl) (Option.mem_toList.1 listed)
  right _ _ := not_goesWrong_ok _

variable {found : Match} {pattern : Pattern} {expression : Expression}

theorem hasType_of_positionLiteralFactory
    (takes : pattern.Takes [.number, .number, .number, .number, .number]) (fits : found.Fits pattern)
    (made : positionLiteralFactory found = some expression) :
    expression.HasType expression.returnType := by
  obtain ⟨x, bound_x, made⟩ := Option.bind_eq_some_iff.1 made
  obtain ⟨y, bound_y, made⟩ := Option.bind_eq_some_iff.1 made
  obtain ⟨z, bound_z, made⟩ := Option.bind_eq_some_iff.1 made
  cases made
  apply hasType_positionLiteral
  · exact fits.slot takes bound_x rfl
  · exact fits.slot takes bound_y rfl
  · exact fits.slot takes bound_z rfl
  · intro given bound
    exact fits.slot takes bound rfl
  · intro given bound
    exact fits.slot takes bound rfl

theorem hasType_of_positionOfFactory (takes : pattern.Takes [.entity]) (fits : found.Fits pattern)
    (made : positionOfFactory found = some expression) : expression.HasType expression.returnType := by
  obtain ⟨entities, bound, rfl⟩ := Option.map_eq_some_iff.1 made
  exact hasType_positionOf (fits.slot takes bound rfl)

theorem hasType_of_chatMessageFactory (made : chatMessageFactory found = some expression) :
    expression.HasType expression.returnType := by
  rw [chatMessageFactory] at made
  split at made
  · cases made
    exact hasType_chatMessage
  · cases made

/-! ### Effects -/

theorem not_goesWrong_evaluating {α : Type} {description : String}
    {evaluate : World → Event → Except EvalError α} {act : α → Scene → Scene}
    (right : ∀ world event, ¬ GoesWrong (evaluate world event)) (event : Event) (scene : Scene) :
    ¬ GoesWrong ((Effect.evaluating description evaluate act).perform event scene).ending := by
  simp only [Effect.evaluating]
  split
  · next error failed => exact not_goesWrong_of_error (right scene.world event) failed
  · exact not_goesWrong_ok _

/-- What is known of an effect of the vocabulary: it never goes wrong, or it is the one that cancels
events or takes that back. -/
def StaysRight (effect : Effect) : Prop :=
  (∀ event scene, ¬ GoesWrong (effect.perform event scene).ending)
    ∨ ∃ cancel, effect = setCancelled cancel

variable {effect : Effect}

theorem staysRight_of_teleportFactory (takes : pattern.Takes [.entity, .position])
    (fits : found.Fits pattern) (made : teleportFactory found = some effect) : StaysRight effect := by
  obtain ⟨targets, bound_targets, made⟩ := Option.bind_eq_some_iff.1 made
  obtain ⟨destination, bound_destination, made⟩ := Option.bind_eq_some_iff.1 made
  cases made
  have typed_targets : targets.HasType .entity := fits.slot takes bound_targets rfl
  have typed_destination : destination.HasType .position := fits.slot takes bound_destination rfl
  refine Or.inl fun event scene => not_goesWrong_evaluating (fun world event => ?_) event scene
  apply not_goesWrong_bind
    (typed_destination.not_goesWrong_require ValueKind.covers_position world event)
  intro destination _
  apply not_goesWrong_bind (typed_targets.not_goesWrong_all ValueKind.covers_entity world event)
  intro targets _
  exact not_goesWrong_ok _

theorem staysRight_of_messageFactory (takes : pattern.Takes [.text, .player]) (fits : found.Fits pattern)
    (made : messageFactory found = some effect) : StaysRight effect := by
  obtain ⟨messages, bound_messages, made⟩ := Option.bind_eq_some_iff.1 made
  cases made
  have typed_messages : messages.HasType .text := fits.slot takes bound_messages rfl
  refine Or.inl fun event scene => not_goesWrong_evaluating (fun world event => ?_) event scene
  apply not_goesWrong_bind (typed_messages.not_goesWrong_all ValueKind.covers_text world event)
  intro messages _
  split
  · exact not_goesWrong_ok _
  · next recipients bound_recipients =>
      have typed_recipients : recipients.HasType .player := fits.slot takes bound_recipients rfl
      apply not_goesWrong_bind
        (typed_recipients.not_goesWrong_all ValueKind.covers_player world event)
      intro recipients _
      exact not_goesWrong_ok _

theorem goesWrong_setCancelled (cancel : Bool) (event : Event) (scene : Scene) :
    GoesWrong ((setCancelled cancel).perform event scene).ending ↔ event.cancellable = false := by
  simp only [setCancelled]
  split
  · next cancellable =>
      rw [cancellable]
      exact iff_of_false (not_goesWrong_ok _) (by decide)
  · next fixed =>
      refine iff_of_true ⟨_, rfl, rfl⟩ ?_
      simpa using fixed

theorem staysRight_of_setCancelledFactory (made : setCancelledFactory found = some effect) :
    StaysRight effect := by
  cases made
  exact Or.inr ⟨_, rfl⟩

theorem goesWrong_of_staysRight (right : StaysRight effect) (event : Event) (scene : Scene) :
    GoesWrong (effect.perform event scene).ending ↔
      event.cancellable = false ∧ ∃ cancel, effect = setCancelled cancel := by
  constructor
  · intro wrong
    rcases right with right | ⟨cancel, rfl⟩
    · exact absurd wrong (right event scene)
    · exact ⟨(goesWrong_setCancelled cancel event scene).1 wrong, cancel, rfl⟩
  · rintro ⟨fixed, cancel, rfl⟩
    exact (goesWrong_setCancelled cancel event scene).2 fixed

/-! ### The grammar -/

/-- Patterns of which a factory makes something good, once their slots are resolved. -/
def MakesResolved {α : Type} (lookup : TypeLookup) (patterns : List Pattern)
    (factory : Match → Option α) (good : α → Prop) : Prop :=
  ∀ resolved, resolvePatterns lookup patterns = .ok resolved →
    ∀ pattern ∈ resolved, pattern.Makes factory good

/-- Whether patterns compile and resolve to such as have slots of these types. -/
def resolvesTo (lookup : TypeLookup) (keys : List TypeKey) (sources : List String) : Bool :=
  match compilePatterns sources >>= resolvePatterns lookup with
  | .ok patterns => patterns.all fun pattern => pattern.Takes keys
  | .error _ => false

theorem takes_of_resolvesTo {lookup : TypeLookup} {keys : List TypeKey} {name : String}
    {sources : List String} {compiled resolved : List Pattern}
    (taking : resolvesTo lookup keys sources = true) (compiles : compileEntry name sources = .ok compiled)
    (resolves : resolvePatterns lookup compiled = .ok resolved) :
    ∀ pattern ∈ resolved, pattern.Takes keys := by
  rw [compileEntry] at compiles
  split at compiles
  · cases compiles
  · have whole : (compilePatterns sources >>= resolvePatterns lookup) = .ok resolved := by
      rw [compiles]
      exact resolves
    rw [resolvesTo, whole] at taking
    intro pattern listed
    exact of_decide_eq_true (List.all_eq_true.1 taking pattern listed)

/-- A grammar of which nothing but effects that stay right and expressions of their types are made. -/
structure Sound (lookup : TypeLookup) (grammar : Grammar) : Prop where
  effects : ∀ entry ∈ grammar.effects, MakesResolved lookup entry.patterns entry.factory StaysRight
  expressions : ∀ entry ∈ grammar.expressions, MakesResolved lookup entry.patterns entry.factory
    fun expression => expression.HasType expression.returnType

namespace Sound

variable {lookup : TypeLookup} {grammar extended : Grammar} {name : String} {sources : List String}

theorem addEffect {factory : Match → Option Effect} (sound : Sound lookup grammar)
    (added : grammar.addEffect name sources factory = .ok extended)
    (makes : ∀ patterns, compileEntry name sources = .ok patterns →
      MakesResolved lookup patterns factory StaysRight) : Sound lookup extended := by
  rw [Grammar.addEffect] at added
  split at added
  · cases added
  · next patterns compiles =>
      cases added
      refine ⟨?_, sound.expressions⟩
      intro entry listed
      rcases List.mem_append.1 listed with listed | listed
      · exact sound.effects entry listed
      · rw [List.mem_singleton.1 listed]
        exact makes patterns compiles

theorem addExpression {type : TypeKey} {factory : Match → Option Expression}
    (sound : Sound lookup grammar)
    (added : grammar.addExpression name sources type factory = .ok extended)
    (makes : ∀ patterns, compileEntry name sources = .ok patterns →
      MakesResolved lookup patterns factory fun expression =>
        expression.HasType expression.returnType) : Sound lookup extended := by
  rw [Grammar.addExpression] at added
  split at added
  · cases added
  · next patterns compiles =>
      cases added
      refine ⟨sound.effects, ?_⟩
      intro entry listed
      rcases List.mem_append.1 listed with listed | listed
      · exact sound.expressions entry listed
      · rw [List.mem_singleton.1 listed]
        exact makes patterns compiles

/-- The expressions for event values are of their types whatever their patterns are. -/
theorem addEventValues {values : EventValues} (typed : values.Typed) {infos : List TypeInfo}
    (sound : Sound lookup grammar)
    (added : Grammar.addEventValues values grammar infos = .ok extended) : Sound lookup extended := by
  induction infos generalizing grammar with
  | nil =>
      cases added
      exact sound
  | cons info rest ih =>
      rw [Grammar.addEventValues] at added
      split at added
      · split at added
        · cases added
        · next grown here =>
            refine ih (sound.addExpression here ?_) added
            intro patterns _ resolved _ pattern _ found _ expression made
            have holds := EventValues.Typed.hasType_of_expression? typed made
            rw [holds.declared]
            exact holds
      · exact ih sound added

theorem resolveEffects {entries resolved : List EffectEntry} {good : Effect → Prop}
    (makes : ∀ entry ∈ entries, MakesResolved lookup entry.patterns entry.factory good)
    (resolves : Grammar.resolveEffects lookup entries = .ok resolved) :
    ∀ entry ∈ resolved, ∀ pattern ∈ entry.patterns, pattern.Makes entry.factory good := by
  induction entries generalizing resolved with
  | nil =>
      cases resolves
      simp
  | cons first rest ih =>
      rw [Grammar.resolveEffects] at resolves
      obtain ⟨patterns, here, resolves⟩ := bind_eq_ok resolves
      obtain ⟨others, there, same⟩ := bind_eq_ok resolves
      cases same
      intro entry listed
      rcases List.mem_cons.1 listed with same | listed
      · subst same
        exact makes first (List.mem_cons_self ..) patterns here
      · exact ih (fun other member => makes other (List.mem_cons_of_mem _ member)) there entry listed

theorem resolveExpressions {entries resolved : List ExpressionEntry} {good : Expression → Prop}
    (makes : ∀ entry ∈ entries, MakesResolved lookup entry.patterns entry.factory good)
    (resolves : Grammar.resolveExpressions lookup entries = .ok resolved) :
    ∀ entry ∈ resolved, ∀ pattern ∈ entry.patterns, pattern.Makes entry.factory good := by
  induction entries generalizing resolved with
  | nil =>
      cases resolves
      simp
  | cons first rest ih =>
      rw [Grammar.resolveExpressions] at resolves
      obtain ⟨patterns, here, resolves⟩ := bind_eq_ok resolves
      obtain ⟨others, there, same⟩ := bind_eq_ok resolves
      cases same
      intro entry listed
      rcases List.mem_cons.1 listed with same | listed
      · subst same
        exact makes first (List.mem_cons_self ..) patterns here
      · exact ih (fun other member => makes other (List.mem_cons_of_mem _ member)) there entry listed

end Sound

section Vocabulary

variable {types : TypeRegistry} {named : Bool}

theorem resolvesTo_positionLiteral (added : addTypes {} named = .ok types) :
    resolvesTo types.slotType [.number, .number, .number, .number, .number]
      ["position\\(%number%, %number%, %number%[, yaw=%number%][, pitch=%number%]\\)"] = true := by
  rw [types_of_addTypes added]
  cases named with
  | false => decide +kernel
  | true => decide +kernel

theorem resolvesTo_positionOf (added : addTypes {} named = .ok types) :
    resolvesTo types.slotType [.entity] ["[the] position of %entities%"] = true := by
  rw [types_of_addTypes added]
  cases named with
  | false => decide +kernel
  | true => decide +kernel

theorem resolvesTo_teleport (added : addTypes {} named = .ok types) :
    resolvesTo types.slotType [.entity, .position] ["teleport %entities% to %position%"] = true := by
  rw [types_of_addTypes added]
  cases named with
  | false => decide +kernel
  | true => decide +kernel

theorem resolvesTo_message (added : addTypes {} named = .ok types) :
    resolvesTo types.slotType [.text, .player]
      ["(message|send) %strings% [recipients:to %players%]"] = true := by
  rw [types_of_addTypes added]
  cases named with
  | false => decide +kernel
  | true => decide +kernel

theorem sound_addExpressions {grammar extended : Grammar} (added : addTypes {} named = .ok types)
    (sound : Sound types.slotType grammar) (grows : addExpressions grammar = .ok extended) :
    Sound types.slotType extended := by
  rw [addExpressions] at grows
  obtain ⟨first, here, grows⟩ := bind_eq_ok grows
  obtain ⟨second, there, last⟩ := bind_eq_ok grows
  have withLiterals : Sound types.slotType first := by
    apply sound.addExpression here
    intro patterns compiles resolved resolves pattern listed found fits expression made
    have takes := takes_of_resolvesTo (resolvesTo_positionLiteral added) compiles resolves
    exact hasType_of_positionLiteralFactory (takes pattern listed) fits made
  have withPositions : Sound types.slotType second := by
    apply withLiterals.addExpression there
    intro patterns compiles resolved resolves pattern listed found fits expression made
    have takes := takes_of_resolvesTo (resolvesTo_positionOf added) compiles resolves
    exact hasType_of_positionOfFactory (takes pattern listed) fits made
  apply withPositions.addExpression last
  intro patterns _ resolved _ pattern _ found _ expression made
  exact hasType_of_chatMessageFactory made

theorem sound_addEffects {grammar extended : Grammar} (added : addTypes {} named = .ok types)
    (sound : Sound types.slotType grammar) (grows : addEffects grammar = .ok extended) :
    Sound types.slotType extended := by
  rw [addEffects] at grows
  obtain ⟨first, here, grows⟩ := bind_eq_ok grows
  obtain ⟨second, there, last⟩ := bind_eq_ok grows
  have withTeleport : Sound types.slotType first := by
    apply sound.addEffect here
    intro patterns compiles resolved resolves pattern listed found fits effect made
    have takes := takes_of_resolvesTo (resolvesTo_teleport added) compiles resolves
    exact staysRight_of_teleportFactory (takes pattern listed) fits made
  have withMessage : Sound types.slotType second := by
    apply withTeleport.addEffect there
    intro patterns compiles resolved resolves pattern listed found fits effect made
    have takes := takes_of_resolvesTo (resolvesTo_message added) compiles resolves
    exact staysRight_of_messageFactory (takes pattern listed) fits made
  apply withMessage.addEffect last
  intro patterns _ resolved _ pattern _ found _ effect made
  exact staysRight_of_setCancelledFactory made

end Vocabulary

/-- Closed registries of nothing but the built-in vocabulary keep to types, and every effect that is made
with them stays right. -/
theorem typed_of_register {options : Options} {vocabulary : Registrar} {context : SealedContext}
    (registered : options.register {} = .ok vocabulary) (closed : vocabulary.close = .ok context) :
    context.registries.Typed ∧ ∀ entry ∈ context.registries.grammar.effects,
      ∀ pattern ∈ entry.patterns, pattern.Makes entry.factory StaysRight := by
  rw [Options.register] at registered
  obtain ⟨types, addedTypes, registered⟩ := bind_eq_ok registered
  obtain ⟨wrappers, -, registered⟩ := bind_eq_ok registered
  obtain ⟨expressions, addedExpressions, registered⟩ := bind_eq_ok registered
  obtain ⟨grammar, addedEffects, same⟩ := bind_eq_ok registered
  cases same
  obtain ⟨registries, frozen, same⟩ := map_eq_ok closed
  subst same
  obtain ⟨frozenWrappers, -, frozen⟩ := bind_eq_ok frozen
  obtain ⟨completed, completes, same⟩ := bind_eq_ok frozen
  cases same
  obtain ⟨grown, grows, completes⟩ := bind_eq_ok completes
  obtain ⟨effects, resolvedEffects, completes⟩ := bind_eq_ok completes
  obtain ⟨ownExpressions, resolvedExpressions, same⟩ := bind_eq_ok completes
  cases same
  have values := values_typed typedGetters_addGetters frozenWrappers
  have empty : Sound types.slotType {} := ⟨by simp, by simp⟩
  have sound : Sound types.slotType grown :=
    ((sound_addEffects addedTypes (sound_addExpressions addedTypes empty addedExpressions)
      addedEffects).addEventValues values grows)
  have typed : Registries.Typed
      { types, values := { getters := addGetters {}, wrappers := frozenWrappers },
        grammar := { effects, expressions := ownExpressions } } :=
    { types := typed_of_addTypes addedTypes
      values := values
      expressions := Sound.resolveExpressions sound.expressions resolvedExpressions }
  exact ⟨typed, Sound.resolveEffects sound.effects resolvedEffects⟩

/-- The vocabulary can be registered and closed, however it is set up. -/
theorem register_closes (options : Options) :
    ∃ vocabulary context, options.register {} = .ok vocabulary ∧ vocabulary.close = .ok context := by
  have succeeds : (options.register {} >>= Registrar.close).isOk = true := by
    have untold : options.register {}
        = Options.register { entityNamesInScripts := options.entityNamesInScripts } {} := rfl
    rw [untold]
    cases options.entityNamesInScripts with
    | false => decide +kernel
    | true => decide +kernel
  cases registered : options.register {} with
  | error error =>
      rw [registered] at succeeds
      cases succeeds
  | ok vocabulary =>
      cases closed : vocabulary.close with
      | error error =>
          have fails : (options.register {} >>= Registrar.close) = .error error := by
            rw [registered]
            exact closed
          rw [fails] at succeeds
          cases succeeds
      | ok context => exact ⟨vocabulary, context, rfl, closed⟩

/-- Lines that are read as effects do not go wrong on types, whatever they are read with and whatever
event they are performed on, except that an event must be cancellable for its flag to be set or
cleared. -/
theorem goesWrong_iff {options : Options} {vocabulary : Registrar} {context : SealedContext}
    {world : World} {line : String} {reading : ParseOptions} {effect : Effect}
    (registered : options.register {} = .ok vocabulary) (closed : vocabulary.close = .ok context)
    (read : (context.registries.searchEffect world line reading).effect? = some effect) (event : Event)
    (scene : Scene) :
    GoesWrong (effect.perform event scene).ending ↔
      event.cancellable = false ∧ ∃ cancel, effect = setCancelled cancel := by
  obtain ⟨typed, makes⟩ := typed_of_register registered closed
  exact goesWrong_of_staysRight (searchEffect_of_makes typed makes read) event scene

/-- The exception is real: a script that has just been loaded cannot be kept from having been. -/
theorem goesWrong_uncancel_load :
    ∃ vocabulary context effect, Options.register {} {} = .ok vocabulary
      ∧ vocabulary.close = .ok context
      ∧ (context.registries.searchEffect { bodies := [] } "uncancel event" {}).effect? = some effect
      ∧ GoesWrong (effect.perform { occurrence := .scriptLoad } { world := { bodies := [] } }).ending := by
  obtain ⟨vocabulary, context, registered, closed⟩ := register_closes {}
  obtain ⟨entries, builtin, effects⟩ := effects_of_register registered
  have resolves := Registrar.resolves_of_close closed
  rw [effects] at resolves
  have read : (context.registries.searchEffect { bodies := [] } "uncancel event" {}).effect?
      = some (setCancelled false) := by
    have asks : asksEvent "uncancel" (Token.tokenize "uncancel event") = true := by
      decide +kernel
    rw [searchEffect_effect?]
    exact (builtin.resolve resolves).effectOf_uncancel asks
  refine ⟨vocabulary, context, _, registered, closed, read, ?_⟩
  exact (goesWrong_iff registered closed read _ _).2 ⟨rfl, false, rfl⟩

end ScriptBridge.Builtins
