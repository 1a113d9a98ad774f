import ScriptBridge.Proofs.Parsing.Resolution
import ScriptBridge.Proofs.Registration.Calls
import ScriptBridge.Proofs.Registration.Closing
/-!
Closing the registries settles every slot or names the first one whose type is not known. A name calls at
most one registered type, and only as its singular or as its plural, because registration refuses names that
are taken; so what a slot is settled to is told by the names alone.
-/

namespace ScriptBridge

/-! ### Names of types -/

/-- The name calls the type, in any case: by its singular name or, with the flag, by a plural that differs
from it. Types have their names in lower case. -/
inductive TypeInfo.IsCalled (info : TypeInfo) (name : String) : Bool → Prop where
  | singular (same : Text.lowercase name = info.name) : IsCalled info name false
  | plural (same : Text.lowercase name = info.plural) (differs : info.plural ≠ info.name) :
      IsCalled info name true

/-- No name calls two types, or one type in two ways. -/
def TypeRegistry.Unambiguous (registry : TypeRegistry) : Prop :=
  ∀ info ∈ registry.types, ∀ other ∈ registry.types, ∀ name plural also,
    info.IsCalled name plural → other.IsCalled name also → info = other ∧ plural = also

/-- The name calls one of the registered types. -/
def TypeRegistry.Knows (registry : TypeRegistry) (name : String) : Prop :=
  ∃ info ∈ registry.types, ∃ plural, info.IsCalled name plural

namespace TypeInfo.IsCalled

variable {info : TypeInfo} {name : String}

theorem flag_unique {plural also : Bool} (called : info.IsCalled name plural)
    (again : info.IsCalled name also) : plural = also := by
  cases called with
  | singular same =>
      cases again with
      | singular => rfl
      | plural alike differs => exact absurd (alike.symm.trans same) differs
  | plural same differs =>
      cases again with
      | singular alike => exact absurd (same.symm.trans alike) differs
      | plural => rfl

theorem same_or {plural : Bool} (called : info.IsCalled name plural) :
    info.name = Text.lowercase name ∨ info.plural = Text.lowercase name := by
  cases called with
  | singular same => exact .inl same.symm
  | plural same => exact .inr same.symm

end TypeInfo.IsCalled

namespace TypeRegistry

variable {registry : TypeRegistry} {name : String}

/-- What is found for a name is a registered type that it calls. -/
theorem called_of_lookup {info : TypeInfo} {plural : Bool}
    (found : registry.lookup name = some (info, plural)) :
    info ∈ registry.types ∧ info.IsCalled name plural := by
  rw [lookup] at found
  obtain ⟨other, listed, found⟩ := List.exists_of_findSome?_eq_some found
  split at found
  · next same =>
      cases found
      exact ⟨listed, .singular same.symm⟩
  · next differs =>
      split at found
      · next same =>
          cases found
          exact ⟨listed, .plural same.symm fun alike => differs (alike ▸ same)⟩
      · cases found

/-- A type is found for every name that calls one. -/
theorem isSome_lookup_iff : (registry.lookup name).isSome = true ↔ registry.Knows name := by
  constructor
  · intro found
    obtain ⟨⟨info, plural⟩, found⟩ := Option.isSome_iff_exists.1 found
    obtain ⟨listed, called⟩ := called_of_lookup found
    exact ⟨info, listed, plural, called⟩
  · rintro ⟨info, listed, plural, called⟩
    rw [lookup, List.findSome?_isSome_iff]
    refine ⟨info, listed, ?_⟩
    rcases called.same_or with same | same
    · simp [same]
    · split <;> simp_all

/-- If no name is ambiguous, the type that a name calls is the one that is found. -/
theorem lookup_eq_of_called (unambiguous : registry.Unambiguous) {info : TypeInfo} {plural : Bool}
    (listed : info ∈ registry.types) (called : info.IsCalled name plural) :
    registry.lookup name = some (info, plural) := by
  have known : (registry.lookup name).isSome = true :=
    isSome_lookup_iff.2 ⟨info, listed, plural, called⟩
  obtain ⟨⟨other, also⟩, found⟩ := Option.isSome_iff_exists.1 known
  obtain ⟨other_listed, other_called⟩ := called_of_lookup found
  obtain ⟨rfl, rfl⟩ := unambiguous info listed other other_listed name plural also called other_called
  exact found

/-- A name that a registered type has is taken. -/
theorem isTaken_of_called {info : TypeInfo} {plural : Bool} (listed : info ∈ registry.types)
    (called : info.IsCalled name plural) : registry.isTaken (Text.lowercase name) = true := by
  rw [isTaken, List.any_eq_true]
  refine ⟨info, listed, ?_⟩
  rcases called.same_or with same | same
  · simp [same]
  · simp [same]

/-- A type is registered behind the others, if its key and both its names are free. -/
theorem register_eq_ok {info : TypeInfo} {extended : TypeRegistry}
    (registers : registry.register info = .ok extended) :
    registry.get? info.key = none ∧ ¬ registry.isTaken info.name ∧ ¬ registry.isTaken info.plural
      ∧ extended = { registry with types := registry.types ++ [info] } := by
  rw [TypeRegistry.register] at registers
  split at registers
  · cases registers
  split at registers
  · cases registers
  split at registers
  · cases registers
  next key name plural =>
    cases registers
    exact ⟨Option.not_isSome_iff_eq_none.1 key, name, plural, rfl⟩

/-- Registering a type leaves no name ambiguous. -/
theorem Unambiguous.register (unambiguous : registry.Unambiguous) {info : TypeInfo}
    {extended : TypeRegistry} (registers : registry.register info = .ok extended) :
    extended.Unambiguous := by
  obtain ⟨-, name, plural, rfl⟩ := register_eq_ok registers
  -- no name calls both the new type and one that was there
  have apart : ∀ other ∈ registry.types, ∀ query flag also, other.IsCalled query flag →
      ¬ info.IsCalled query also := by
    intro other listed query flag also old new
    have taken := isTaken_of_called listed old
    rcases new.same_or with same | same
    · exact name (same ▸ taken)
    · exact plural (same ▸ taken)
  intro first first_listed second second_listed query flag also first_called second_called
  rcases List.mem_append.1 first_listed with first_listed | first_new
  · rcases List.mem_append.1 second_listed with second_listed | second_new
    · exact unambiguous first first_listed second second_listed query flag also first_called
        second_called
    · cases List.mem_singleton.1 second_new
      exact absurd second_called (apart first first_listed query flag also first_called)
  · cases List.mem_singleton.1 first_new
    rcases List.mem_append.1 second_listed with second_listed | second_new
    · exact absurd first_called (apart second second_listed query also flag second_called)
    · cases List.mem_singleton.1 second_new
      exact ⟨rfl, first_called.flag_unique second_called⟩

end TypeRegistry

/-- The description of the type that a call registers. -/
def Call.info? : Call → Option TypeInfo
  | .type info => some info
  | _ => none

namespace Registrar

/-- A registration that succeeds registers a type or leaves the types alone. -/
theorem types_of_enrol {registrar next : Registrar} {call : Call}
    (enrolled : registrar.enrol call = .ok next) :
    (∃ info, call.info? = some info ∧ registrar.types.register info = .ok next.types)
      ∨ call.info? = none ∧ next.types = registrar.types := by
  cases call with
  | type info =>
      obtain ⟨types, registers, rfl⟩ := map_eq_ok enrolled
      exact .inl ⟨info, rfl, registers⟩
  | wrapper spec event native wrap? =>
      obtain ⟨wrappers, -, rfl⟩ := map_eq_ok enrolled
      exact .inr ⟨rfl, rfl⟩
  | declared spec event =>
      obtain ⟨wrappers, -, rfl⟩ := map_eq_ok enrolled
      exact .inr ⟨rfl, rfl⟩
  | effect name patterns factory =>
      obtain ⟨grammar, -, rfl⟩ := map_eq_ok enrolled
      exact .inr ⟨rfl, rfl⟩
  | expression name patterns returns factory =>
      obtain ⟨grammar, -, rfl⟩ := map_eq_ok enrolled
      exact .inr ⟨rfl, rfl⟩

/-- Registrations that succeed leave no name of a type ambiguous, and the types are those that they register,
in order, behind those that were there. -/
theorem types_of_calls {registrar final : Registrar} {calls : List Call}
    (unambiguous : registrar.types.Unambiguous)
    (enrolled : calls.foldlM Registrar.enrol registrar = .ok final) :
    final.types.Unambiguous
      ∧ final.types.types = registrar.types.types ++ calls.filterMap Call.info? := by
  induction calls generalizing registrar with
  | nil =>
      cases enrolled
      exact ⟨unambiguous, (List.append_nil _).symm⟩
  | cons call rest ih =>
      rw [List.foldlM_cons] at enrolled
      obtain ⟨next, here, enrolled⟩ := bind_eq_ok enrolled
      rcases types_of_enrol here with ⟨info, isType, registers⟩ | ⟨noType, same⟩
      · obtain ⟨kept, types⟩ := ih (unambiguous.register registers) enrolled
        obtain ⟨-, -, -, extended⟩ := TypeRegistry.register_eq_ok registers
        refine ⟨kept, ?_⟩
        rw [types, extended, List.filterMap_cons_some isType, List.append_assoc]
        rfl
      · rw [← same] at unambiguous ⊢
        rw [List.filterMap_cons_none noType]
        exact ih unambiguous enrolled

end Registrar

/-! ### What closing comes to -/

section

variable {registry : TypeRegistry}

theorem TypeRegistry.refusal?_eq_none_iff {place : Pattern × Slot} :
    registry.slotType.refusal? place = none ↔ registry.Knows place.2.typeName := by
  rw [← isSome_lookup_iff]
  simp [TypeLookup.refusal?, TypeLookup.unknown?, TypeRegistry.slotType, Option.isSome_iff_ne_none]

theorem TypeRegistry.refusal?_eq_some_iff {place : Pattern × Slot} {error : RegistrationError} :
    registry.slotType.refusal? place = some error
      ↔ ¬ registry.Knows place.2.typeName
        ∧ error = .unknownType place.2.typeName place.1.source := by
  rw [← isSome_lookup_iff, TypeLookup.refusal?, TypeLookup.unknown?, TypeRegistry.slotType]
  cases registry.lookup place.2.typeName with
  | none => simp [eq_comm]
  | some found => simp

/-- A slot is settled to the type that its name calls. -/
theorem TypeRegistry.settle_of_called (unambiguous : registry.Unambiguous) {slot : Slot}
    {info : TypeInfo} {plural : Bool} (listed : info ∈ registry.types)
    (called : info.IsCalled slot.typeName plural) :
    registry.slotType.settle slot = { slot with key := some info.key, plural } := by
  simp [TypeLookup.settle, TypeRegistry.slotType, lookup_eq_of_called unambiguous listed called]

end

/-- Closing settles every slot or names the first one whose type is not known. Whatever was registered in which
order, closing succeeds exactly if the name in every slot of every registered pattern calls a registered type.
Then each slot is settled to the key of the type that its name calls, as a plural exactly if the name is a
plural that differs from the singular, and nothing else about the entries changes; and behind all registered
expressions stands one for the event's value of each type that defaults to it, in the order of the types.
Otherwise the error names the first slot, by wrappers, effects and expressions in order, whose name calls no
type. -/
theorem Registrar.close_settles_or_names_first {start registrar : Registrar} {calls : List Call}
    (fresh : start.types.types = []) (enrolled : calls.foldlM Registrar.enrol start = .ok registrar)
    (unmarked : ∀ info ∈ registrar.types.types, info.Unmarked) :
    registrar.types.types = calls.filterMap Call.info?
    ∧ ((∃ context, registrar.close = .ok context)
        ↔ ∀ place ∈ registrar.places, registrar.types.Knows place.2.typeName)
    ∧ (∀ context, registrar.close = .ok context → ∃ settle : Slot → Slot,
        (∀ place ∈ registrar.places, ∀ info ∈ registrar.types.types, ∀ plural,
          info.IsCalled place.2.typeName plural →
            settle place.2 = { place.2 with key := some info.key, plural })
        ∧ context.registries.wrappers.entries
          = registrar.wrappers.entries.map (·.mapSlots settle)
        ∧ context.registries.grammar.effects
          = registrar.grammar.effects.map (·.mapSlots settle)
        ∧ context.registries.grammar.expressions
          = registrar.grammar.expressions.map (·.mapSlots settle)
            ++ (registrar.types.types.filter (·.defaultsToEvent)).map
              (·.eventEntry context.registries.values))
    ∧ ∀ error, registrar.close = .error error ↔
        ∃ before pattern slot after, registrar.places = before ++ (pattern, slot) :: after
          ∧ (∀ earlier ∈ before, registrar.types.Knows earlier.2.typeName)
          ∧ ¬ registrar.types.Knows slot.typeName
          ∧ error = .unknownType slot.typeName pattern.source := by
  have unnamed : start.types.Unambiguous := by
    intro info listed
    rw [fresh] at listed
    cases listed
  obtain ⟨unambiguous, types⟩ := types_of_calls unnamed enrolled
  rw [fresh, List.nil_append] at types
  rw [close_eq unmarked]
  refine ⟨types, ?_, ?_, ?_⟩
  · constructor
    · rintro ⟨context, closes⟩ place listed
      exact TypeRegistry.refusal?_eq_none_iff.1 ((refuseFirst_eq_ok_iff.1 closes).1 place listed)
    · intro known
      refine ⟨_, refuseFirst_eq_ok_iff.2 ⟨?_, rfl⟩⟩
      exact fun place listed => TypeRegistry.refusal?_eq_none_iff.2 (known place listed)
  · intro context closes
    obtain ⟨-, rfl⟩ := refuseFirst_eq_ok_iff.1 closes
    refine ⟨registrar.types.slotType.settle, ?_, rfl, rfl, rfl⟩
    intro place _ info listed plural called
    exact TypeRegistry.settle_of_called unambiguous listed called
  · intro error
    simp only [refuseFirst_eq_error_iff, TypeRegistry.refusal?_eq_none_iff,
      TypeRegistry.refusal?_eq_some_iff, Prod.exists]

/-- Patterns that call types by either name and in any case, in front of the types themselves. -/
def orchardCalls : List Call :=
  [.effect "Pick" ["pick %apples% [from %tree%]"] fun _ => none,
    .declared { name := "fall", patterns := ["fall of %APPLE%"] } (.named "Fall"),
    .expression "Ripe" ["[the] ripe %apples%"] (.named "Apple") fun _ => none,
    .type { TypeInfo.named (.named "Apple") "Apple" with defaultSource := .eventValue },
    .type (TypeInfo.named (.named "Tree") "tree")]

/-- The registrar that they leave. -/
def orchard : Registrar :=
  (orchardCalls.foldlM Registrar.enrol {}).toOption.getD {}

theorem Registrar.close_settles_orchard :
    orchardCalls.foldlM Registrar.enrol {} = .ok orchard ∧ orchard.places.length = 4
      ∧ ∃ context, orchard.close = .ok context
        ∧ context.registries.grammar.expressions.map (·.name) = ["Ripe", "event-apple"] := by
  have enrolled : orchardCalls.foldlM Registrar.enrol {} = .ok orchard := by
    have succeeds : (orchardCalls.foldlM Registrar.enrol {}).isOk = true := by decide +kernel
    unfold orchard
    revert succeeds
    cases orchardCalls.foldlM Registrar.enrol {} with
    | error error => exact fun fails => absurd fails Bool.false_ne_true
    | ok registrar => exact fun _ => rfl
  have unmarked : ∀ info ∈ orchard.types.types, info.Unmarked :=
    TypeInfo.unmarked_of_all (by decide +kernel)
  have found : ∀ place ∈ orchard.places,
      (orchard.types.lookup place.2.typeName).isSome = true := by
    decide +kernel
  obtain ⟨-, closes, settles, -⟩ := close_settles_or_names_first rfl enrolled unmarked
  obtain ⟨context, closed⟩ := closes.2 fun place listed =>
    TypeRegistry.isSome_lookup_iff.1 (found place listed)
  obtain ⟨settle, -, -, -, expressions⟩ := settles context closed
  refine ⟨enrolled, by decide +kernel, context, closed, ?_⟩
  rw [expressions, List.map_append, List.map_map, List.map_map]
  show orchard.grammar.expressions.map (·.name)
    ++ (orchard.types.types.filter (·.defaultsToEvent)).map ("event-" ++ ·.name) = _
  decide +kernel

end ScriptBridge
