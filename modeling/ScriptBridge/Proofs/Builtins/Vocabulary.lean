import ScriptBridge.Proofs.Builtins.Typing
import ScriptBridge.Proofs.Registration.Closing
/-!
The built-in vocabulary once it is closed: its types, the entries of its effects with all their slots settled,
and how strings can be expressed.
-/

namespace ScriptBridge.Builtins

open Parsing

/-! ### Patterns -/

/-- The pattern of the effect that moves entities. -/
def teleportPattern (targets destination : Slot) : Pattern where
  source := "teleport %entities% to %position%"
  nodes := [.literal "teleport", .slot targets, .literal "to", .slot destination]
  slotCount := 2

/-- The pattern of the effect that sends messages. -/
def messagePattern (messages recipients : Slot) : Pattern where
  source := "(message|send) %strings% [recipients:to %players%]"
  nodes :=
    [.choice [.mk none [.literal "message"], .mk none [.literal "send"]], .slot messages,
      .optional (.mk (some "recipients") [.literal "to", .slot recipients])]
  slotCount := 2

/-- The pattern of the expression for the message of a chat event. -/
def chatMessagePattern : Pattern where
  source := "[the] [chat] message"
  nodes :=
    [.optional (.mk none [.literal "the"]), .optional (.mk none [.literal "chat"]),
      .literal "message"]
  slotCount := 0

theorem compile_teleport :
    compileEntry "Teleport" ["teleport %entities% to %position%"]
      = .ok [teleportPattern { index := 0, typeName := "entities" }
          { index := 1, typeName := "position" }] := by
  with_unfolding_all rfl

theorem compile_message :
    compileEntry "Message" ["(message|send) %strings% [recipients:to %players%]"]
      = .ok [messagePattern { index := 0, typeName := "strings" }
          { index := 1, typeName := "players" }] := by
  with_unfolding_all rfl

theorem compile_chatMessage :
    compileEntry "ChatMessage" ["[the] [chat] message"] = .ok [chatMessagePattern] := by
  with_unfolding_all rfl

/-! ### What is registered -/

/-- The registry of the built-in types. -/
def typesWith (named : Bool) : TypeRegistry :=
  ({ types := valueTypes named } : TypeRegistry).addConverter .player .entity some

theorem expressions_of_addExpression {grammar extended : Grammar} {name : String}
    {sources : List String} {type : TypeKey} {factory : Match → Option Expression}
    (added : grammar.addExpression name sources type factory = .ok extended) :
    ∃ patterns, compileEntry name sources = .ok patterns
      ∧ extended = { grammar with
          expressions := grammar.expressions ++ [⟨name, patterns, factory, type⟩] } := by
  rw [Grammar.addExpression] at added
  split at added
  · cases added
  · next patterns compiles =>
      cases added
      exact ⟨patterns, compiles, rfl⟩

/-- The entries of the built-in expressions, with the patterns for positions. -/
def expressionsWith (literals positions : List Pattern) : List ExpressionEntry :=
  [ ⟨"PositionLiteral", literals, positionLiteralFactory, .position⟩,
    ⟨"PositionOf", positions, positionOfFactory, .position⟩,
    ⟨"ChatMessage", [chatMessagePattern], chatMessageFactory, .text⟩ ]

/-- What the patterns for positions are written as. -/
structure PositionPatterns (literals positions : List Pattern) : Prop where
  literals : compileEntry "PositionLiteral"
    ["position\\(%number%, %number%, %number%[, yaw=%number%][, pitch=%number%]\\)"] = .ok literals
  positions : compileEntry "PositionOf" ["[the] position of %entities%"] = .ok positions

theorem expressions_of_addExpressions {grammar extended : Grammar}
    (added : addExpressions grammar = .ok extended) : ∃ literals positions,
      PositionPatterns literals positions
      ∧ extended = { grammar with
          expressions := grammar.expressions ++ expressionsWith literals positions } := by
  rw [addExpressions] at added
  obtain ⟨first, addedFirst, added⟩ := bind_eq_ok added
  obtain ⟨second, addedSecond, addedThird⟩ := bind_eq_ok added
  obtain ⟨literals, literalsCompile, rfl⟩ := expressions_of_addExpression addedFirst
  obtain ⟨positions, positionsCompile, rfl⟩ := expressions_of_addExpression addedSecond
  obtain ⟨messages, compiles, rfl⟩ := expressions_of_addExpression addedThird
  rw [compile_chatMessage] at compiles
  cases compiles
  refine ⟨literals, positions, ⟨literalsCompile, positionsCompile⟩, ?_⟩
  simp [expressionsWith]

theorem mapSlots_expressionsWith (change : Slot → Slot) (literals positions : List Pattern) :
    (expressionsWith literals positions).map (·.mapSlots change)
      = expressionsWith (literals.map (·.mapSlots change)) (positions.map (·.mapSlots change)) := by
  simp [expressionsWith, ExpressionEntry.mapSlots, Pattern.mapSlots, chatMessagePattern, mapNodes,
    Node.mapSlots, Branch.mapSlots]

/-- The entries of the built-in effects, with their slots as they are written or as they are settled. -/
def effectsWith (settle : Slot → Slot) : List EffectEntry :=
  [ { name := "Teleport"
      patterns := [teleportPattern (settle { index := 0, typeName := "entities" })
        (settle { index := 1, typeName := "position" })]
      factory := teleportFactory },
    { name := "Message"
      patterns := [messagePattern (settle { index := 0, typeName := "strings" })
        (settle { index := 1, typeName := "players" })]
      factory := messageFactory },
    setCancelledEntry ]

theorem addEffects_eq (grammar : Grammar) :
    addEffects grammar = .ok { grammar with effects := grammar.effects ++ effectsWith id } := by
  simp [addEffects, Grammar.addEffect, compile_teleport, compile_message, compile_setCancelled, bind,
    Except.bind, effectsWith, setCancelledEntry]

theorem mapSlots_effectsWith (change : Slot → Slot) :
    (effectsWith id).map (·.mapSlots change) = effectsWith change := by
  simp [effectsWith, EffectEntry.mapSlots, Pattern.mapSlots, teleportPattern, messagePattern,
    setCancelledEntry, setCancelledPattern, mapNodes, mapBranches, Node.mapSlots, Branch.mapSlots]

/-! ### What is closed -/

theorem unmarked_valueTypes {named : Bool} : ∀ info ∈ valueTypes named, info.Unmarked := by
  apply TypeInfo.unmarked_of_all
  cases named with
  | false => decide +kernel
  | true => decide +kernel

theorem key_of_defaultsToEvent {named : Bool} : ∀ info ∈ valueTypes named,
    info.defaultsToEvent = true → info.key ≠ .text := by
  cases named with
  | false => decide +kernel
  | true => decide +kernel

/-- What closed registries of nothing but the built-in vocabulary hold. -/
structure Holds (registries : Registries) (named : Bool) : Prop where
  types : registries.types = typesWith named
  effects : registries.grammar.effects = effectsWith (typesWith named).slotType.settle
  texts : ∀ entry ∈ registries.grammar.expressions, entry.returnType = .text →
    entry.patterns = [chatMessagePattern]

/-- The registries of nothing but the built-in vocabulary, once they are closed. -/
theorem registries_of_register {options : Options} {vocabulary : Registrar} {context : SealedContext}
    (registered : options.register {} = .ok vocabulary) (closed : vocabulary.close = .ok context) :
    let types := typesWith options.entityNamesInScripts
    let settle := types.slotType.settle
    let values := vocabulary.valuesWith settle
    ∃ literals positions, PositionPatterns literals positions
      ∧ context.registries =
        { types, values
          grammar :=
            { effects := effectsWith settle
              expressions :=
                expressionsWith (literals.map (·.mapSlots settle)) (positions.map (·.mapSlots settle))
                  ++ (types.types.filter (·.defaultsToEvent)).map (·.eventEntry values) } } := by
  rw [Options.register] at registered
  obtain ⟨types, addedTypes, registered⟩ := bind_eq_ok registered
  obtain ⟨wrappers, -, registered⟩ := bind_eq_ok registered
  obtain ⟨expressions, addedExpressions, registered⟩ := bind_eq_ok registered
  obtain ⟨grammar, addedEffects, same⟩ := bind_eq_ok registered
  cases same
  obtain ⟨literals, positions, written, rfl⟩ := expressions_of_addExpressions addedExpressions
  rw [addEffects_eq] at addedEffects
  cases addedEffects
  have areTypes : types = typesWith options.entityNamesInScripts := types_of_addTypes addedTypes
  subst areTypes
  rw [Registrar.close_eq unmarked_valueTypes] at closed
  obtain ⟨-, rfl⟩ := refuseFirst_eq_ok_iff.1 closed
  refine ⟨literals, positions, written, ?_⟩
  rw [← mapSlots_effectsWith, ← mapSlots_expressionsWith]
  rfl

theorem holds_of_register {options : Options} {vocabulary : Registrar} {context : SealedContext}
    (registered : options.register {} = .ok vocabulary) (closed : vocabulary.close = .ok context) :
    Holds context.registries options.entityNamesInScripts := by
  obtain ⟨literals, positions, -, same⟩ := registries_of_register registered closed
  rw [same]
  constructor
  · rfl
  · rfl
  · intro entry listed forText
    rcases List.mem_append.1 listed with own | generated
    · simp only [expressionsWith, List.mem_cons, List.not_mem_nil, or_false] at own
      rcases own with rfl | rfl | rfl
      · cases forText
      · cases forText
      · rfl
    · obtain ⟨info, chosen, rfl⟩ := List.mem_map.1 generated
      obtain ⟨isType, default⟩ := List.mem_filter.1 chosen
      exact absurd forText (key_of_defaultsToEvent info isType default)

end ScriptBridge.Builtins
