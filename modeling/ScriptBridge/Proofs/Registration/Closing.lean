import ScriptBridge.Proofs.Pattern.OwnText
import ScriptBridge.Proofs.Registration.Settling
/-!
Closing the registries as one pass over the slots of the registered patterns, in the order wrappers, effects,
expressions. The expressions for event values, which closing adds behind all others, compile if the names of
their types are plain, and they have no slots; so they change nothing about what can fail.
-/

namespace ScriptBridge

/-! ### The expressions for event values -/

namespace TypeInfo

/-- Whether a slot of this type that is left out stands for the value that the event has. -/
def defaultsToEvent (info : TypeInfo) : Bool :=
  match info.defaultSource with
  | .eventValue => true
  | _ => false

theorem defaultsToEvent_iff {info : TypeInfo} :
    info.defaultsToEvent = true ↔ info.defaultSource = .eventValue := by
  unfold defaultsToEvent
  split
  · next default => exact iff_of_true rfl default
  · next default => exact iff_of_false Bool.false_ne_true default

/-- The pattern by which scripts call the value of this type that the event has. -/
def eventPattern (info : TypeInfo) : Pattern where
  source := "[the] [event-]" ++ info.name
  nodes :=
    .optional (.mk none [.literal "the"]) :: .optional (.mk none [.literal "event", .literal "-"])
      :: Syntax.literalsOf info.name.toList
  slotCount := 0

/-- The expression for the value of this type that the event has. -/
def eventEntry (values : EventValues) (info : TypeInfo) : ExpressionEntry where
  name := "event-" ++ info.name
  patterns := [info.eventPattern]
  factory found := values.expression? found.options.event info.key info.name
  returnType := info.key

/-- Nothing in the name of the type means something in a pattern. -/
def Unmarked (info : TypeInfo) : Prop :=
  ∀ c ∈ info.name.toList, c ∉ Syntax.marks

/-- What is checked of the names of types character by character holds of them. -/
theorem unmarked_of_all {infos : List TypeInfo}
    (checked : infos.all (fun info => info.name.toList.all fun c => decide (c ∉ Syntax.marks)) = true) :
    ∀ info ∈ infos, info.Unmarked := by
  intro info listed
  exact Pattern.forall_mem_of_all (List.all_eq_true.1 checked info listed)

end TypeInfo

theorem Syntax.not_beginsTagged {text : List Char} (noColon : ':' ∉ text) : ¬ BeginsTagged text := by
  rintro ⟨word, rest, -, -, rfl⟩
  simp at noColon

/-- A word between square brackets may be left out. -/
theorem SequenceReads.optionalWord {number next : Nat} {run word text : List Char} {nodes : List Node}
    (unmarked : ∀ c ∈ word, c ∉ Syntax.marks) (noColon : ':' ∉ word)
    (rest : SequenceReads number [] text nodes next) :
    SequenceReads number run ('[' :: word ++ ']' :: text)
      (Syntax.literalsOf run ++ .optional (.mk none (Syntax.literalsOf word)) :: nodes) next := by
  have reads := Pattern.reads_unmarked unmarked number []
  rw [List.nil_append] at reads
  have stands : GroupStands .square [.mk none (Syntax.literalsOf word)]
      (.optional (.mk none (Syntax.literalsOf word))) := .optional
  exact .group (.last (.untagged (Syntax.not_beginsTagged noColon) reads)) stands rest

/-- The pattern for an event value compiles as it is meant. -/
theorem TypeInfo.compile_eventPattern {info : TypeInfo} (unmarked : info.Unmarked) :
    Pattern.compile ("[the] [event-]" ++ info.name) = .ok info.eventPattern := by
  have nothing : Syntax.literalsOf [] = [] := by with_unfolding_all rfl
  have blank : Syntax.literalsOf [' '] = [] := by with_unfolding_all rfl
  have the : Syntax.literalsOf "the".toList = [.literal "the"] := by with_unfolding_all rfl
  have event : Syntax.literalsOf "event-".toList = [.literal "event", .literal "-"] := by
    with_unfolding_all rfl
  have name : SequenceReads 0 [] info.name.toList (Syntax.literalsOf info.name.toList) 0 :=
    Pattern.reads_unmarked unmarked 0 []
  have behind : SequenceReads 0 [' '] ('[' :: "event-".toList ++ ']' :: info.name.toList) _ 0 :=
    .optionalWord (Pattern.forall_mem_of_all (by decide)) (by decide) name
  have reads : SequenceReads 0 [] ('[' :: "the".toList ++ ']' :: (' ' ::
      ('[' :: "event-".toList ++ ']' :: info.name.toList))) _ 0 :=
    .optionalWord (Pattern.forall_mem_of_all (by decide)) (by decide) (.plain (by decide) behind)
  rw [nothing, blank, the, event] at reads
  have text : ("[the] [event-]" ++ info.name).toList = '[' :: "the".toList ++ ']' :: (' ' ::
      ('[' :: "event-".toList ++ ']' :: info.name.toList)) := by
    simp
  rw [← text] at reads
  exact Pattern.compile_of_reads reads (by simp)

/-- The expressions for event values are added behind all others, one for each type that defaults to its event
value, in the order of the types. -/
theorem Grammar.addEventValues_eq {values : EventValues} {infos : List TypeInfo}
    (unmarked : ∀ info ∈ infos, info.Unmarked) (grammar : Grammar) :
    Grammar.addEventValues values grammar infos = .ok { grammar with
      expressions := grammar.expressions
        ++ (infos.filter (·.defaultsToEvent)).map (·.eventEntry values) } := by
  induction infos generalizing grammar with
  | nil => simp [addEventValues]
  | cons info rest ih =>
      obtain ⟨here, others⟩ := List.forall_mem_cons.1 unmarked
      rw [addEventValues]
      split
      · next default =>
          have added : grammar.addEventValue values info = .ok { grammar with
              expressions := grammar.expressions ++ [info.eventEntry values] } := by
            simp [addEventValue, addExpression, compileEntry, compilePatterns,
              info.compile_eventPattern here]
            rfl
          rw [added]
          simp [ih others, TypeInfo.defaultsToEvent_iff.2 default]
      · next default =>
          rw [ih others, List.filter_cons_of_neg (mt TypeInfo.defaultsToEvent_iff.1 default)]

theorem mapNodes_literalsOf (change : Slot → Slot) (run : List Char) :
    mapNodes change (Syntax.literalsOf run) = Syntax.literalsOf run := by
  unfold Syntax.literalsOf
  generalize Token.tokenize (String.ofList run) = tokens
  induction tokens with
  | nil => rw [List.map_nil, mapNodes]
  | cons token rest ih => rw [List.map_cons, mapNodes, Node.mapSlots, ih]

/-- There are no slots in the pattern for an event value. -/
theorem TypeInfo.slots_eventPattern (info : TypeInfo) : info.eventPattern.slots = [] := by
  simp [Pattern.slots, eventPattern, slotsOfNodes, Node.slots, Branch.slots, Syntax.slots_literalsOf]

theorem TypeInfo.mapSlots_eventEntry (change : Slot → Slot) (values : EventValues) (info : TypeInfo) :
    (info.eventEntry values).mapSlots change = info.eventEntry values := by
  simp [ExpressionEntry.mapSlots, eventEntry, Pattern.mapSlots, eventPattern, mapNodes, Node.mapSlots,
    Branch.mapSlots, mapNodes_literalsOf]

theorem placesOf_eventEntries (values : EventValues) (infos : List TypeInfo) :
    placesOf ((infos.map (·.eventEntry values)).flatMap (·.patterns)) = [] := by
  simp [placesOf, List.flatMap_map, TypeInfo.eventEntry, List.flatMap_assoc, TypeInfo.slots_eventPattern]

/-! ### Closing as one pass -/

/-- A grammar is completed by one pass over the slots of its effects and then of its expressions. -/
theorem Grammar.complete_eq {types : TypeRegistry} (unmarked : ∀ info ∈ types.types, info.Unmarked)
    (values : EventValues) (grammar : Grammar) :
    grammar.complete types values = refuseFirst types.slotType.refusal?
      (placesOf (grammar.effects.flatMap (·.patterns))
        ++ placesOf (grammar.expressions.flatMap (·.patterns)))
      { effects := grammar.effects.map (·.mapSlots types.slotType.settle)
        expressions := grammar.expressions.map (·.mapSlots types.slotType.settle)
          ++ (types.types.filter (·.defaultsToEvent)).map (·.eventEntry values) } := by
  have ungenerated : (grammar.expressions
        ++ (types.types.filter (·.defaultsToEvent)).map (·.eventEntry values)).map
          (·.mapSlots types.slotType.settle)
      = grammar.expressions.map (·.mapSlots types.slotType.settle)
        ++ (types.types.filter (·.defaultsToEvent)).map (·.eventEntry values) := by
    simp [TypeInfo.mapSlots_eventEntry]
  have unplaced : placesOf ((grammar.expressions
        ++ (types.types.filter (·.defaultsToEvent)).map (·.eventEntry values)).flatMap (·.patterns))
      = placesOf (grammar.expressions.flatMap (·.patterns)) := by
    rw [List.flatMap_append, placesOf_append, placesOf_eventEntries, List.append_nil]
  rw [Grammar.complete, addEventValues_eq unmarked, ← ungenerated, ← unplaced]
  show (do
    let effects ← Grammar.resolveEffects types.slotType grammar.effects
    let expressions ← Grammar.resolveExpressions types.slotType _
    pure (Grammar.mk effects expressions)) = _
  rw [resolveEffects_eq, resolveExpressions_eq, bind_pure_refuseFirst Grammar.mk]

namespace Registrar

/-- The registered patterns: those of wrappers, then of effects, then of expressions. -/
def patterns (registrar : Registrar) : List Pattern :=
  registrar.wrappers.entries.flatMap (·.patterns)
    ++ (registrar.grammar.effects.flatMap (·.patterns)
      ++ registrar.grammar.expressions.flatMap (·.patterns))

/-- The slots of the registered patterns, each with its pattern, in order. -/
def places (registrar : Registrar) : List (Pattern × Slot) :=
  placesOf registrar.patterns

/-- The wrappers with their slots changed. -/
def wrappersWith (change : Slot → Slot) (registrar : Registrar) : WrapperRegistry :=
  { registrar.wrappers with entries := registrar.wrappers.entries.map (·.mapSlots change) }

/-- The values of events, with the slots of wrappers changed. -/
def valuesWith (change : Slot → Slot) (registrar : Registrar) : EventValues :=
  { getters := registrar.getters, wrappers := registrar.wrappersWith change }

/-- The registrar closed, with slots changed and the expressions for event values behind all others. -/
def closedWith (change : Slot → Slot) (registrar : Registrar) : SealedContext where
  registries :=
    { types := registrar.types
      values := registrar.valuesWith change
      grammar :=
        { effects := registrar.grammar.effects.map (·.mapSlots change)
          expressions := registrar.grammar.expressions.map (·.mapSlots change)
            ++ (registrar.types.types.filter (·.defaultsToEvent)).map
              (·.eventEntry (registrar.valuesWith change)) } }
  handlers := registrar.handlers

variable {registrar : Registrar}

/-- Closing goes through the slots of the registered patterns in order. -/
theorem close_eq (unmarked : ∀ info ∈ registrar.types.types, info.Unmarked) :
    registrar.close = refuseFirst registrar.types.slotType.refusal? registrar.places
      (registrar.closedWith registrar.types.slotType.settle) := by
  let values := registrar.valuesWith registrar.types.slotType.settle
  have completes := congrArg
    (Except.map fun grammar => ({ types := registrar.types, values, grammar } : Registries))
    (Grammar.complete_eq unmarked values registrar.grammar)
  rw [map_refuseFirst] at completes
  have freezes : Registries.freeze registrar.types registrar.wrappers registrar.getters
        registrar.grammar
      = refuseFirst registrar.types.slotType.refusal? registrar.places
        (registrar.closedWith registrar.types.slotType.settle).registries := by
    rw [Registries.freeze, WrapperRegistry.resolve, resolveEntries_eq, map_refuseFirst, places,
      patterns, placesOf_append, placesOf_append]
    exact bind_refuseFirst completes
  rw [close, freezes, map_refuseFirst]
  rfl

end Registrar

end ScriptBridge
