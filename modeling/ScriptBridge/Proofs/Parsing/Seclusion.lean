import ScriptBridge.Proofs.Parsing.Extension
import ScriptBridge.Proofs.Parsing.FirstMatch
import ScriptBridge.Proofs.Pattern.Layout
/-!
Reading that tells nothing of the world. The world is looked at only by the parsers of types, in any window at
any depth. So if the parsers of some types leave it alone in a context, and expressions that can stand for values
of these types ask in their slots for nothing but values of these types, then such values are read alike in all
worlds. This is shown for a reader of values by induction on the levels of windows; for patterns it comes down to
their derivations, which read nothing but the slots of the pattern.
-/

namespace ScriptBridge.Parsing

/-! ### Derivations -/

/-- Two readers read the same in these slots. -/
def AgreeOn (slots : List Slot) (read other : SlotReader) : Prop :=
  ∀ slot ∈ slots, ∀ start stop, read slot start stop = other slot start stop

section Derivations

variable {slots fewer : List Slot} {read other : SlotReader} {tokens : List Token}

theorem AgreeOn.symm (agree : AgreeOn slots read other) : AgreeOn slots other read :=
  fun slot listed start stop => (agree slot listed start stop).symm

theorem AgreeOn.subset (agree : AgreeOn slots read other) (within : fewer ⊆ slots) :
    AgreeOn fewer read other :=
  fun slot listed => agree slot (within listed)

mutual

/-- A derivation reads nothing but slots of its node. -/
theorem NodeDerives.congr : ∀ {node : Node} {start stop : Nat} {way : List Decision},
    NodeDerives read tokens node start way stop → AgreeOn node.slots read other →
      NodeDerives other tokens node start way stop
  | _, _, _, _, .literal present fits, _ => .literal present fits
  | _, _, _, _, .choice chosen derives, agree =>
      .choice chosen (derives.congr (agree.subset (slots_sublist_of_chosen chosen).subset))
  | _, _, _, _, @NodeDerives.taken _ _ (.mk _ _) _ _ _ derives, agree => .taken (derives.congr agree)
  | _, _, _, _, .skipped, _ => .skipped
  | _, _, _, _, .slot nonempty within value, agree =>
      .slot nonempty within ((agree _ (List.mem_singleton_self _) _ _).symm.trans value)

/-- The derivation of a sequence reads nothing but slots in it. -/
theorem NodesDerive.congr : ∀ {nodes : List Node} {start stop : Nat} {way : List Decision},
    NodesDerive read tokens nodes start way stop → AgreeOn (slotsOfNodes nodes) read other →
      NodesDerive other tokens nodes start way stop
  | _, _, _, _, .nil, _ => .nil
  | _, _, _, _, .cons first rest, agree =>
      .cons (first.congr (agree.subset (List.subset_append_left _ _)))
        (rest.congr (agree.subset (List.subset_append_right _ _)))

end

theorem nodesDerive_iff {nodes : List Node} (agree : AgreeOn (slotsOfNodes nodes) read other)
    {start stop : Nat} (way : List Decision) :
    NodesDerive read tokens nodes start way stop ↔ NodesDerive other tokens nodes start way stop :=
  ⟨fun derives => derives.congr agree, fun derives => derives.congr agree.symm⟩

/-- The same ways have the same first one. -/
theorem Finds.unique {ways : List Decision → Prop} {found second : Option Bindings}
    (finds : Finds ways found) (again : Finds ways second) : found = second := by
  cases finds with
  | nothing empty =>
      cases again with
      | nothing => rfl
      | first isFirst => exact absurd isFirst.holds (empty _)
  | first isFirst =>
      cases again with
      | nothing empty => exact absurd isFirst.holds (empty _)
      | first otherFirst => rw [isFirst.unique otherFirst]

/-- A pattern is matched alike with readers that agree on its slots. -/
theorem matchPattern_congr {pattern : Pattern} (agree : AgreeOn pattern.slots read other) :
    matchPattern read tokens pattern = matchPattern other tokens pattern :=
  (matchPattern_finds read tokens pattern).unique
    ((matchPattern_finds other tokens pattern).congr (nodesDerive_iff agree.symm))

end Derivations

/-! ### Readers -/

/-- Two readers read values of these types alike. -/
def ReadAlike (keys : TypeKey → Prop) (value other : ValueReader) : Prop :=
  ∀ tokens slot key, keys key → value tokens slot key = other tokens slot key

/-- In these slots stand only values of these types. -/
def AskOnly (keys : TypeKey → Prop) (slots : List Slot) : Prop :=
  ∀ slot ∈ slots, ∀ key, slot.key = some key → keys key

section Readers

variable {keys : TypeKey → Prop} {value other item itemOther : ValueReader} {slots : List Slot}

theorem listOf?_eq (items : ReadAlike keys item itemOther) {key : TypeKey} (asked : keys key)
    (tokens : List Token) (slot : Slot) :
    Source.listOf? item tokens slot key = Source.listOf? itemOther tokens slot key := by
  have each : (fun part : Nat × Nat => item (window tokens part.1 part.2) slot key)
      = fun part => itemOther (window tokens part.1 part.2) slot key :=
    funext fun part => items _ slot key asked
  rw [Source.listOf?, Source.listOf?, each]

/-- Slots are read alike, one value or a list, if values and items are. -/
theorem agreeOn_slotReader (values : ReadAlike keys value other) (items : ReadAlike keys item itemOther)
    (only : AskOnly keys slots) (tokens : List Token) :
    AgreeOn slots (Source.slotReader value item tokens) (Source.slotReader other itemOther tokens) := by
  intro slot listed start stop
  rw [Source.slotReader, Source.slotReader]
  cases typed : slot.key with
  | none => rfl
  | some key =>
      have asked := only slot listed key typed
      simp only [values _ slot key asked, listOf?_eq items asked]

end Readers

end Parsing

open Parsing

/-- In a context the registries keep what they read for these types apart from the world: the parsers leave it
alone, and expressions whose values can stand there ask for nothing else. -/
structure Registries.Secludes (registries : Registries) (context : ParseContext) (keys : TypeKey → Prop) :
    Prop where
  written : ∀ key info, keys key → registries.types.get? key = some info →
    ∀ (world other : World) (text : String),
      info.parse? world text context = info.parse? other text context
  asks : ∀ entry ∈ registries.grammar.expressions, ∀ target, keys target →
    registries.types.converts entry.returnType target = true →
      ∀ pattern ∈ entry.patterns, AskOnly keys pattern.slots

namespace Registries.Secludes

variable {registries : Registries} {keys : TypeKey → Prop} {options : ParseOptions}
  {world other : World} {text : List Char}

theorem match?_eq {value item second secondItem : ValueReader} {pattern : Pattern}
    (values : ReadAlike keys value second) (items : ReadAlike keys item secondItem)
    (only : AskOnly keys pattern.slots) (tokens : List Token) (number : Nat) :
    Source.match? ⟨registries, world, text, options⟩ value item tokens number pattern
      = Source.match? ⟨registries, other, text, options⟩ second secondItem tokens number pattern := by
  rw [Source.match?, Source.match?, matchPattern_congr (agreeOn_slotReader values items only tokens)]
  rfl

theorem entryExpression?_eq {value item second secondItem : ValueReader}
    (values : ReadAlike keys value second) (items : ReadAlike keys item secondItem)
    (tokens : List Token) (target : TypeKey) (entry : ExpressionEntry) {patterns : List Pattern}
    (only : ∀ pattern ∈ patterns, AskOnly keys pattern.slots) (number : Nat) :
    Source.entryExpression? ⟨registries, world, text, options⟩ value item tokens target entry number
        patterns
      = Source.entryExpression? ⟨registries, other, text, options⟩ second secondItem tokens target entry
        number patterns := by
  induction patterns generalizing number with
  | nil => rfl
  | cons pattern rest ih =>
      obtain ⟨here, others⟩ := List.forall_mem_cons.1 only
      rw [Source.entryExpression?, Source.entryExpression?, match?_eq values items here, ih others]
      rfl

variable (secludes : registries.Secludes options.context keys)

include secludes

/-- Expressions that can stand for values of these types are read alike. -/
theorem expression?_eq {value item second secondItem : ValueReader}
    (values : ReadAlike keys value second) (items : ReadAlike keys item secondItem)
    (tokens : List Token) {target : TypeKey} (asked : keys target) :
    Source.expression? ⟨registries, world, text, options⟩ value item tokens target
      = Source.expression? ⟨registries, other, text, options⟩ second secondItem tokens target := by
  have each (entry same : ExpressionEntry)
      (listed : entry ∈ registries.grammar.expressions ∧ entry = same) :
      (if registries.types.converts entry.returnType target then
          Source.entryExpression? ⟨registries, world, text, options⟩ value item tokens target entry 0
            entry.patterns
        else none)
        = if registries.types.converts same.returnType target then
            Source.entryExpression? ⟨registries, other, text, options⟩ second secondItem tokens target
              same 0 same.patterns
          else none := by
    obtain ⟨listed, rfl⟩ := listed
    split
    · next converts =>
        exact entryExpression?_eq values items tokens target entry
          (secludes.asks entry listed target asked converts) 0
    · rfl
  rw [Source.expression?, Source.expression?]
  exact congrArg (ite _ none)
    (findSome?_eq_of_forall₂ each (List.forall₂_same.2 fun entry listed => ⟨listed, rfl⟩))

/-- What is written out for values of these types is read alike. -/
theorem writtenOut?_eq (tokens : List Token) {key : TypeKey} (asked : keys key) :
    Source.writtenOut? ⟨registries, world, text, options⟩ tokens key
      = Source.writtenOut? ⟨registries, other, text, options⟩ tokens key := by
  rw [Source.writtenOut?, Source.writtenOut?]
  cases present : registries.types.get? key with
  | none => rfl
  | some info =>
      exact congrArg (Option.map _) (secludes.written key info asked present world other _)

theorem valueWith_eq {value item second secondItem : ValueReader}
    (values : ReadAlike keys value second) (items : ReadAlike keys item secondItem) :
    ReadAlike keys (Source.valueWith ⟨registries, world, text, options⟩ value item)
      (Source.valueWith ⟨registries, other, text, options⟩ second secondItem) := by
  intro tokens slot key asked
  rw [Source.valueWith, Source.valueWith, secludes.writtenOut?_eq tokens asked,
    secludes.expression?_eq values items tokens asked]
  rfl

/-- Values of these types are read alike at every depth. -/
theorem valueAt_eq (levels : Nat) :
    ReadAlike keys (Source.valueAt ⟨registries, world, text, options⟩ levels)
      (Source.valueAt ⟨registries, other, text, options⟩ levels) := by
  induction levels using Source.valueAt.induct with
  | case1 => exact fun _ _ _ _ => rfl
  | case2 => exact secludes.valueWith_eq (fun _ _ _ _ => rfl) (fun _ _ _ _ => rfl)
  | case3 levels values items =>
      -- items are read a level deeper than values, so both of the levels below are needed
      rw [Source.valueAt, Source.valueAt]
      exact secludes.valueWith_eq values items

variable (options world other) (text : String) {pattern : Pattern} (only : AskOnly keys pattern.slots)

include only

/-- A pattern that asks for nothing else has the same derivations in all worlds. -/
theorem derives_iff (way : List Decision) :
    (Session.ofText registries world options text).Derives pattern way
      ↔ (Session.ofText registries other options text).Derives pattern way :=
  nodesDerive_iff (agreeOn_slotReader (secludes.valueAt_eq _) (secludes.valueAt_eq _) only _) way

/-- It has the same match. -/
theorem session_match?_eq (number : Nat) :
    (Session.ofText registries world options text).match? number pattern
      = (Session.ofText registries other options text).match? number pattern :=
  match?_eq (secludes.valueAt_eq _) (secludes.valueAt_eq _) only _ number

omit only

/-- A text is read as an expression of such a type alike in all worlds. -/
theorem parseExpression_eq {target : TypeKey} (asked : keys target) :
    registries.parseExpression world text target options
      = registries.parseExpression other text target options := by
  have read : (Session.ofText registries world options text).expression? target
      = (Session.ofText registries other options text).expression? target :=
    congrArg (ite _ none)
      (secludes.expression?_eq (secludes.valueAt_eq _) (secludes.valueAt_eq _) _ asked)
  exact read

end Registries.Secludes

end ScriptBridge
