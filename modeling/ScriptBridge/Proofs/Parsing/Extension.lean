import Mathlib.Data.List.Forall2
import ScriptBridge.Proofs.Parsing.Precedence
import ScriptBridge.Proofs.Parsing.Resolution
/-!
Extensions of registries. What a slot is read as depends on the types, on the expressions and on the values
that the ambient event provides, never on effects, and on wrappers only through that event. So entries that
are registered behind all others leave alone what was read before, and all else they read as if they stood
alone.
-/

namespace ScriptBridge

/-- Two entries make the same of every match that was read under the circumstances that are allowed. -/
structure ExpressionEntry.Alike (allowed : ParseOptions → Prop) (first second : ExpressionEntry) :
    Prop where
  patterns : first.patterns = second.patterns
  returnType : first.returnType = second.returnType
  factory : ∀ found : Match, allowed found.options → first.factory found = second.factory found

/-- Two sets of event values provide the same under the circumstances that are allowed. -/
def EventValues.Alike (allowed : ParseOptions → Prop) (first second : EventValues) : Prop :=
  ∀ options, allowed options → ∀ key name,
    first.expression? options.event key name = second.expression? options.event key name

/-- Two registries agree on all that reading a slot under such circumstances asks them. -/
structure Registries.Alike (allowed : ParseOptions → Prop) (first second : Registries) : Prop where
  types : first.types = second.types
  values : first.values.Alike allowed second.values
  expressions : List.Forall₂ (ExpressionEntry.Alike allowed) first.grammar.expressions
    second.grammar.expressions

/-- Without an ambient event no event values are provided at all. -/
theorem EventValues.alike_without_event (first second : EventValues) :
    first.Alike (·.event = none) second := by
  intro options unknown key name
  rw [unknown]
  rfl

namespace Parsing

/-- Lists whose elements answer alike have the same first answer. -/
theorem findSome?_eq_of_forall₂ {α β γ : Type} {related : α → β → Prop} {answer : α → Option γ}
    {other : β → Option γ} (same : ∀ a b, related a b → answer a = other b) {list : List α}
    {others : List β} (pairs : List.Forall₂ related list others) :
    list.findSome? answer = others.findSome? other := by
  induction pairs with
  | nil => rfl
  | cons pair _ ih => rw [List.findSome?_cons, List.findSome?_cons, same _ _ pair, ih]

section

variable {allowed : ParseOptions → Prop} {first second : Registries} {world : World}
  {text : List Char} {options : ParseOptions}

namespace Source

theorem defaultFor_eq (alike : first.Alike allowed second) (asked : allowed options) (slot : Slot) :
    defaultFor ⟨first, world, text, options⟩ slot = defaultFor ⟨second, world, text, options⟩ slot := by
  simp only [defaultFor, alike.types, alike.values options asked]

theorem toMatch_eq (alike : first.Alike allowed second) (asked : allowed options)
    (tokens : List Token) (pattern : Pattern) (number : Nat) (bindings : Bindings) :
    toMatch ⟨first, world, text, options⟩ tokens pattern number bindings
      = toMatch ⟨second, world, text, options⟩ tokens pattern number bindings := by
  have slots : slotValue ⟨first, world, text, options⟩ pattern.slots bindings
      = slotValue ⟨second, world, text, options⟩ pattern.slots bindings := by
    funext index
    simp only [slotValue, defaultFor_eq alike asked]
  rw [toMatch, slots]
  rfl

theorem match?_eq (alike : first.Alike allowed second) (asked : allowed options)
    (value item : ValueReader) (tokens : List Token) (number : Nat) (pattern : Pattern) :
    match? ⟨first, world, text, options⟩ value item tokens number pattern
      = match? ⟨second, world, text, options⟩ value item tokens number pattern :=
  congrArg (Option.map · _) (funext fun bindings => toMatch_eq alike asked tokens pattern number bindings)

theorem fitTo_eq (alike : first.Alike allowed second) (target : TypeKey) :
    fitTo ⟨first, world, text, options⟩ target = fitTo ⟨second, world, text, options⟩ target := by
  funext expression
  simp only [fitTo, alike.types]

/-- Entries that make the same of every match read the same expressions. -/
theorem entryExpression?_eq (alike : first.Alike allowed second) (asked : allowed options)
    {entry other : ExpressionEntry} (entries : entry.Alike allowed other) (value item : ValueReader)
    (tokens : List Token) (target : TypeKey) (number : Nat) (patterns : List Pattern) :
    entryExpression? ⟨first, world, text, options⟩ value item tokens target entry number patterns
      = entryExpression? ⟨second, world, text, options⟩ value item tokens target other number
          patterns := by
  induction patterns generalizing number with
  | nil => rfl
  | cons pattern rest ih =>
      have made : (match? ⟨first, world, text, options⟩ value item tokens number pattern).bind
            entry.factory
          = (match? ⟨second, world, text, options⟩ value item tokens number pattern).bind
            other.factory := by
        rw [match?_eq alike asked]
        cases found : match? ⟨second, world, text, options⟩ value item tokens number pattern with
        | none => rfl
        | some found_match =>
            obtain ⟨bindings, -, rfl⟩ := Option.map_eq_some_iff.1 found
            exact entries.factory _ asked
      rw [entryExpression?, entryExpression?, made, fitTo_eq alike, ih]

theorem expression?_eq (alike : first.Alike allowed second) (asked : allowed options)
    (value item : ValueReader) (tokens : List Token) (target : TypeKey) :
    expression? ⟨first, world, text, options⟩ value item tokens target
      = expression? ⟨second, world, text, options⟩ value item tokens target := by
  have each (entry other : ExpressionEntry) (entries : entry.Alike allowed other) :
      (if first.types.converts entry.returnType target then
          entryExpression? ⟨first, world, text, options⟩ value item tokens target entry 0 entry.patterns
        else none)
        = if second.types.converts other.returnType target then
            entryExpression? ⟨second, world, text, options⟩ value item tokens target other 0
              other.patterns
          else none := by
    rw [alike.types, entries.returnType, entries.patterns, entryExpression?_eq alike asked entries]
  rw [expression?, expression?]
  exact congrArg (ite _ none) (findSome?_eq_of_forall₂ each alike.expressions)

theorem valueWith_eq (alike : first.Alike allowed second) (asked : allowed options)
    (value item : ValueReader) :
    valueWith ⟨first, world, text, options⟩ value item
      = valueWith ⟨second, world, text, options⟩ value item := by
  funext tokens slot key
  simp only [valueWith, writtenOut?, fromString?, alike.types, expression?_eq alike asked]
  rfl

/-- Values are read alike at every depth. -/
theorem valueAt_eq (alike : first.Alike allowed second) (asked : allowed options) (levels : Nat) :
    valueAt ⟨first, world, text, options⟩ levels = valueAt ⟨second, world, text, options⟩ levels := by
  induction levels using valueAt.induct with
  | case1 => rfl
  | case2 => exact valueWith_eq alike asked noValue noValue
  | case3 levels ih_value ih_item =>
      rw [valueAt, valueAt, ih_value, ih_item, valueWith_eq alike asked]

end Source

/-- Registries that agree match every pattern alike. -/
theorem Session.match?_eq (alike : first.Alike allowed second) (asked : allowed options)
    (world : World) (text : String) :
    (ofText first world options text).match? = (ofText second world options text).match? := by
  funext number pattern
  have values (levels : Nat) :
      Source.valueAt ⟨first, world, text.toList, options⟩ levels
        = Source.valueAt ⟨second, world, text.toList, options⟩ levels :=
    Source.valueAt_eq alike asked levels
  simp only [match?, ofText, valueBelow, itemBelow, values]
  exact Source.match?_eq alike asked ..

end

end Parsing

/-! ### Closing alike -/

variable {allowed : ParseOptions → Prop}

namespace Grammar

theorem addExpression_alike {grammar other grown : Grammar} {name : String} {patterns : List String}
    {type : TypeKey} {factory substitute : Match → Option Expression}
    (alike : List.Forall₂ (ExpressionEntry.Alike allowed) grammar.expressions other.expressions)
    (same : ∀ found : Match, allowed found.options → factory found = substitute found)
    (added : grammar.addExpression name patterns type factory = .ok grown) :
    ∃ grown_other, other.addExpression name patterns type substitute = .ok grown_other
      ∧ List.Forall₂ (ExpressionEntry.Alike allowed) grown.expressions grown_other.expressions := by
  rw [addExpression] at added ⊢
  cases compiled : compileEntry name patterns with
  | error error =>
      rw [compiled] at added
      cases added
  | ok compiled_patterns =>
      rw [compiled] at added
      cases added
      exact ⟨_, rfl, List.rel_append alike (.cons ⟨rfl, rfl, same⟩ .nil)⟩

theorem addEventValues_alike {values others : EventValues} {grammar other grown : Grammar}
    {infos : List TypeInfo} (values_alike : values.Alike allowed others)
    (alike : List.Forall₂ (ExpressionEntry.Alike allowed) grammar.expressions other.expressions)
    (added : addEventValues values grammar infos = .ok grown) :
    ∃ grown_other, addEventValues others other infos = .ok grown_other
      ∧ List.Forall₂ (ExpressionEntry.Alike allowed) grown.expressions grown_other.expressions := by
  induction infos generalizing grammar other with
  | nil =>
      cases added
      exact ⟨other, rfl, alike⟩
  | cons info rest ih =>
      rw [addEventValues] at added
      rw [addEventValues]
      split at added
      · split at added
        · cases added
        · next longer here =>
            obtain ⟨longer_other, there, longer_alike⟩ :=
              addExpression_alike alike (fun found asked => values_alike _ asked _ _) here
            obtain ⟨grown_other, added_other, grown_alike⟩ := ih longer_alike added
            refine ⟨grown_other, ?_, grown_alike⟩
            rw [addEventValue, there]
            exact added_other
      · exact ih alike added

theorem resolveExpressions_alike {lookup : TypeLookup} {entries others resolved : List ExpressionEntry}
    (alike : List.Forall₂ (ExpressionEntry.Alike allowed) entries others)
    (resolves : resolveExpressions lookup entries = .ok resolved) :
    ∃ resolved_others, resolveExpressions lookup others = .ok resolved_others
      ∧ List.Forall₂ (ExpressionEntry.Alike allowed) resolved resolved_others := by
  induction alike generalizing resolved with
  | nil =>
      cases resolves
      exact ⟨[], rfl, .nil⟩
  | @cons entry other _ _ pair _ ih =>
      rw [resolveExpressions] at resolves
      obtain ⟨patterns, here, resolves⟩ := bind_eq_ok resolves
      obtain ⟨rest, behind, same⟩ := bind_eq_ok resolves
      cases same
      obtain ⟨rest_others, behind_others, rest_alike⟩ := ih behind
      refine ⟨{ other with patterns } :: rest_others, ?_, .cons ⟨rfl, pair.returnType, pair.factory⟩
        rest_alike⟩
      rw [resolveExpressions, ← pair.patterns, here, behind_others]
      rfl

/-- Grammars with the same expressions are completed alike, whatever their effects are. -/
theorem complete_alike {types : TypeRegistry} {values others : EventValues}
    {grammar completed : Grammar} {effects resolved : List EffectEntry}
    (values_alike : values.Alike allowed others)
    (resolves : resolveEffects types.slotType effects = .ok resolved)
    (completes : grammar.complete types values = .ok completed) :
    ∃ expressions, complete { grammar with effects } types others = .ok ⟨resolved, expressions⟩
      ∧ List.Forall₂ (ExpressionEntry.Alike allowed) completed.expressions expressions := by
  rw [complete] at completes
  obtain ⟨grown, added, completes⟩ := bind_eq_ok completes
  obtain ⟨_, -, completes⟩ := bind_eq_ok completes
  obtain ⟨expressions, frozen, same⟩ := bind_eq_ok completes
  cases same
  have same_entries : List.Forall₂ (ExpressionEntry.Alike allowed) grammar.expressions
      ({ grammar with effects } : Grammar).expressions :=
    List.forall₂_same.2 fun entry _ => ⟨rfl, rfl, fun _ _ => rfl⟩
  obtain ⟨grown_other, added_other, grown_alike⟩ :=
    addEventValues_alike values_alike same_entries added
  obtain ⟨expressions_other, frozen_other, alike⟩ := resolveExpressions_alike grown_alike frozen
  refine ⟨expressions_other, ?_, alike⟩
  rw [complete, added_other]
  have kept : grown_other.effects = effects := effects_of_addEventValues added_other
  simp only [bind, Except.bind, kept, resolves, frozen_other]
  rfl

end Grammar

namespace WrapperRegistry

theorem resolveEntries_append {lookup : TypeLookup} {entries others resolved : List WrapperEntry}
    (resolves : resolveEntries lookup (entries ++ others) = .ok resolved) :
    ∃ first second, resolveEntries lookup entries = .ok first
      ∧ resolveEntries lookup others = .ok second ∧ resolved = first ++ second := by
  induction entries generalizing resolved with
  | nil => exact ⟨[], resolved, rfl, resolves, rfl⟩
  | cons entry rest ih =>
      rw [List.cons_append, resolveEntries] at resolves
      obtain ⟨patterns, here, resolves⟩ := bind_eq_ok resolves
      obtain ⟨behind, there, same⟩ := bind_eq_ok resolves
      obtain ⟨first, second, resolved_first, resolved_second, rfl⟩ := ih there
      cases same
      refine ⟨{ entry with patterns } :: first, second, ?_, resolved_second, rfl⟩
      rw [resolveEntries, here, resolved_first]
      rfl

end WrapperRegistry

namespace Registrar

/-- The same registrations, but for the effects. -/
def withEffects (registrar : Registrar) (effects : List EffectEntry) : Registrar :=
  { registrar with grammar := { registrar.grammar with effects } }

/-- The same registrations, but for the wrappers. -/
def withWrappers (registrar : Registrar) (entries : List WrapperEntry) : Registrar :=
  { registrar with wrappers := { registrar.wrappers with entries } }

variable {registrar : Registrar} {context : SealedContext}

/-- With other effects that can be resolved the registries close too, and read slots as before. -/
theorem close_withEffects {effects resolved : List EffectEntry}
    (closes : registrar.close = .ok context)
    (resolves : Grammar.resolveEffects registrar.types.slotType effects = .ok resolved) :
    ∃ other, (registrar.withEffects effects).close = .ok other
      ∧ other.registries.grammar.effects = resolved
      ∧ context.registries.Alike (fun _ => True) other.registries := by
  obtain ⟨registries, frozen, rfl⟩ := map_eq_ok closes
  obtain ⟨wrappers, wrapped, frozen⟩ := bind_eq_ok frozen
  obtain ⟨grammar, completes, same⟩ := bind_eq_ok frozen
  cases same
  have values : EventValues.Alike (fun _ => True) ⟨registrar.getters, wrappers⟩
      ⟨registrar.getters, wrappers⟩ := fun _ _ _ _ => rfl
  obtain ⟨expressions, completes_other, alike⟩ := Grammar.complete_alike values resolves completes
  refine ⟨⟨⟨registrar.types, ⟨registrar.getters, wrappers⟩, ⟨resolved, expressions⟩⟩,
    registrar.handlers⟩, ?_, rfl, rfl, values, alike⟩
  simp only [close, withEffects, Registries.freeze, wrapped, bind, Except.bind, completes_other]
  rfl

/-- With other wrappers that can be resolved the registries close too, and read slots as before where no
event is known. -/
theorem close_withWrappers {entries resolved : List WrapperEntry}
    (closes : registrar.close = .ok context)
    (resolves : WrapperRegistry.resolveEntries registrar.types.slotType entries = .ok resolved) :
    ∃ other, (registrar.withWrappers entries).close = .ok other
      ∧ other.registries.wrappers.entries = resolved
      ∧ context.registries.Alike (·.event = none) other.registries := by
  obtain ⟨registries, frozen, rfl⟩ := map_eq_ok closes
  obtain ⟨wrappers, wrapped, frozen⟩ := bind_eq_ok frozen
  obtain ⟨grammar, completes, same⟩ := bind_eq_ok frozen
  cases same
  have values := EventValues.alike_without_event ⟨registrar.getters, wrappers⟩
    ⟨registrar.getters, { registrar.wrappers with entries := resolved }⟩
  obtain ⟨expressions, completes_other, alike⟩ :=
    Grammar.complete_alike values (Grammar.resolves_of_complete completes) completes
  refine ⟨⟨⟨registrar.types, ⟨registrar.getters, { registrar.wrappers with entries := resolved }⟩,
    ⟨grammar.effects, expressions⟩⟩, registrar.handlers⟩, ?_, rfl, rfl, values, alike⟩
  simp only [close, withWrappers, Registries.freeze, WrapperRegistry.resolve, resolves, Except.map, bind,
    Except.bind, completes_other]
  rfl

/-- The wrappers in closed registries are those that were registered, resolved. -/
theorem resolvesEntries_of_close (closes : registrar.close = .ok context) :
    WrapperRegistry.resolveEntries registrar.types.slotType registrar.wrappers.entries
      = .ok context.registries.wrappers.entries := by
  obtain ⟨registries, frozen, rfl⟩ := map_eq_ok closes
  obtain ⟨wrappers, wrapped, frozen⟩ := bind_eq_ok frozen
  obtain ⟨grammar, -, same⟩ := bind_eq_ok frozen
  cases same
  obtain ⟨entries, resolves, rfl⟩ := map_eq_ok wrapped
  exact resolves

end Registrar

namespace Registries

open Parsing

variable {allowed : ParseOptions → Prop} {first second : Registries}

/-- Registries that read slots alike accept the same matches. -/
theorem acceptance?_eq (alike : first.Alike allowed second) {options : ParseOptions}
    (asked : allowed options) (world : World) (text : String) :
    acceptance? (.ofText first world options text) = acceptance? (.ofText second world options text) := by
  funext entry number pattern
  rw [acceptance?, acceptance?, Session.match?_eq alike asked]

theorem eventMatch?_eq (alike : first.Alike (·.event = none) second) (world : World) (text : String) :
    eventMatch? (.ofText first world { context := .event } text)
      = eventMatch? (.ofText second world { context := .event } text) := by
  funext entry number pattern
  rw [eventMatch?, eventMatch?, Session.match?_eq alike rfl]

/-- Of registries that read slots alike, one with more effects is conservative over those with fewer. -/
theorem conservative_effects {longer alone : Registries}
    (here : longer.Alike (fun _ => True) first) (there : longer.Alike (fun _ => True) alone)
    (effects : longer.grammar.effects = first.grammar.effects ++ alone.grammar.effects)
    (world : World) (text : String) (options : ParseOptions) :
    Conservative (first.effectAt world text options) (longer.effectAt world text options)
      (first.searchEffect world text options).accepted?
      (alone.searchEffect world text options).accepted?
      (longer.searchEffect world text options).accepted? := by
  rw [searchEffect_accepted?, searchEffect_accepted?, searchEffect_accepted?, effectAt, effectAt,
    effects, acceptance?_eq here trivial, ← acceptance?_eq there trivial, acceptance?_eq here trivial]
  exact conservative_append _

theorem conservative_events {longer alone : Registries}
    (here : longer.Alike (·.event = none) first) (there : longer.Alike (·.event = none) alone)
    (entries : longer.wrappers.entries = first.wrappers.entries ++ alone.wrappers.entries)
    (world : World) (text : String) :
    Conservative (first.eventAt world text) (longer.eventAt world text)
      (first.parseEvent world text) (alone.parseEvent world text)
      (longer.parseEvent world text) := by
  rw [parseEvent_eq, parseEvent_eq, parseEvent_eq, eventAt, eventAt, entries, eventMatch?_eq here,
    ← eventMatch?_eq there, eventMatch?_eq here]
  exact conservative_append _

end Registries

open Parsing

/-- The first accepted entry wins, and later entries are conservative. A line is read as an effect at the
first place where a pattern matches it and the entry accepts the match, and a header as an event at the
first place where a pattern matches it. When effects, or wrappers, are registered behind all others, what
was read before is read as before, and all else as the added ones alone read it. -/
theorem first_accepted_entry_wins :
    (∀ (registries : Registries) (world : World) (text : String) (options : ParseOptions),
        ReadInOrder (registries.effectAt world text options)
            (registries.searchEffect world text options).accepted?
          ∧ (registries.searchEffect world text options).effect?
            = (registries.searchEffect world text options).accepted?.map Acceptance.effect
          ∧ ReadInOrder (registries.eventAt world text) (registries.parseEvent world text))
      ∧ (∀ (registrar : Registrar) (more : List EffectEntry) (longer : SealedContext),
          (registrar.withEffects (registrar.grammar.effects ++ more)).close = .ok longer →
          ∃ first alone, registrar.close = .ok first ∧ (registrar.withEffects more).close = .ok alone
            ∧ ∀ world text options,
                Conservative (first.registries.effectAt world text options)
                  (longer.registries.effectAt world text options)
                  (first.registries.searchEffect world text options).accepted?
                  (alone.registries.searchEffect world text options).accepted?
                  (longer.registries.searchEffect world text options).accepted?)
      ∧ ∀ (registrar : Registrar) (more : List WrapperEntry) (longer : SealedContext),
          (registrar.withWrappers (registrar.wrappers.entries ++ more)).close = .ok longer →
          ∃ first alone, registrar.close = .ok first ∧ (registrar.withWrappers more).close = .ok alone
            ∧ ∀ world text,
                Conservative (first.registries.eventAt world text) (longer.registries.eventAt world text)
                  (first.registries.parseEvent world text) (alone.registries.parseEvent world text)
                  (longer.registries.parseEvent world text) := by
  refine ⟨?_, ?_, ?_⟩
  · intro registries world text options
    refine ⟨?_, EffectSearch.effect?_eq _, ?_⟩
    · rw [Registries.searchEffect_accepted?]
      exact readInOrder
    · rw [Registries.parseEvent_eq]
      exact readInOrder
  · intro registrar more longer closes
    obtain ⟨kept, added, resolves_kept, resolves_added, effects⟩ :=
      Grammar.resolveEffects_append (Registrar.resolves_of_close closes)
    obtain ⟨first, closes_first, same_first, alike_first⟩ :=
      Registrar.close_withEffects closes resolves_kept
    obtain ⟨alone, closes_alone, same_alone, alike_alone⟩ :=
      Registrar.close_withEffects closes resolves_added
    refine ⟨first, alone, closes_first, closes_alone, fun world text options => ?_⟩
    refine Registries.conservative_effects alike_first alike_alone ?_ world text options
    rw [effects, same_first, same_alone]
  · intro registrar more longer closes
    obtain ⟨kept, added, resolves_kept, resolves_added, entries⟩ :=
      WrapperRegistry.resolveEntries_append (Registrar.resolvesEntries_of_close closes)
    obtain ⟨first, closes_first, same_first, alike_first⟩ :=
      Registrar.close_withWrappers closes resolves_kept
    obtain ⟨alone, closes_alone, same_alone, alike_alone⟩ :=
      Registrar.close_withWrappers closes resolves_added
    refine ⟨first, alone, closes_first, closes_alone, fun world text => ?_⟩
    refine Registries.conservative_events alike_first alike_alone ?_ world text
    rw [entries, same_first, same_alone]

/-- A pattern of one word. -/
def wordPattern (word : String) : Pattern where
  source := word
  nodes := [.literal word]
  slotCount := 0

/-- An effect of that word which does nothing. -/
def idleEffect (word : String) : Effect where
  description := word
  perform event scene := ⟨event.cancelled, scene, .ok ()⟩

/-- A host with an effect that refuses every match. -/
def pickyHost : Registrar where
  grammar := { effects := [⟨"picky", [wordPattern "shout"], fun _ => none, false⟩] }

/-- An effect that comes behind it, with two patterns. -/
def fallback : EffectEntry :=
  ⟨"fallback", [wordPattern "sing", wordPattern "shout"], fun _ => some (idleEffect "shout"), false⟩

/-- What the first entry refuses is left to the one behind it, which reads it with its second pattern. -/
theorem first_accepted_entry_wins_fallback :
    ∃ longer, (pickyHost.withEffects (pickyHost.grammar.effects ++ [fallback])).close = .ok longer
      ∧ ((longer.registries.searchEffect { bodies := [] } "SHOUT" {}).accepted?.map fun accepted =>
          (accepted.entry.name, accepted.found.pattern)) = some ("fallback", 1) := by
  obtain ⟨-, effects, -⟩ := first_accepted_entry_wins
  obtain ⟨first, alone, closes, closes_alone, conservative⟩ := effects pickyHost [fallback] _ rfl
  obtain ⟨-, added⟩ := conservative { bodies := [] } "SHOUT" {}
  cases closes
  cases closes_alone
  refine ⟨_, rfl, ?_⟩
  rw [added (by decide +kernel)]
  decide +kernel

end ScriptBridge
