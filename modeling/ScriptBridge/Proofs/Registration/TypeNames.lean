import Mathlib.Data.List.Nodup
import ScriptBridge.Proofs.Registration.NoTrace
import ScriptBridge.Proofs.Registration.Sealing
import ScriptBridge.Proofs.Text.LowerCase
/-!
How types are found. Types are registered one after the other, and some are refused because their key or
one of their names is taken. Main statement: after any such attempts each type that is registered is found
by its key, by its name and by its plural, in any letter case, and nothing is found for other names; and the
places that the indexes store are places of registered types, where following them finds what a search of
the list finds.
-/

namespace ScriptBridge

/-! ### Descriptions with names in lower case -/

/-- How descriptions of types are put together. -/
inductive TypeInfo.Built : TypeInfo → Prop where
  | named (key : TypeKey) (name : String) : Built (.named key name)
  | withPlural {info : TypeInfo} (built : Built info) (plural : String) : Built (info.withPlural plural)
  | described {info : TypeInfo} (built : Built info) (displayName : String) (description : Option String)
      (parser : Option ValueParser) (serializer : Option Serializer) (defaultSource : DefaultSource) :
      Built { info with displayName, description, parser, serializer, defaultSource }

/-- Names come to be in lower case. -/
theorem TypeInfo.Built.isLower {info : TypeInfo} (built : info.Built) :
    Text.IsLower info.name ∧ Text.IsLower info.plural := by
  induction built with
  | named key name =>
      have lower := Text.isLower_lowercase name
      exact ⟨lower, lower.append (by decide)⟩
  | withPlural built plural ih => exact ⟨ih.1, Text.isLower_lowercase plural⟩
  | described built displayName description parser serializer defaultSource ih => exact ih

namespace TypeRegistry

variable {registry : TypeRegistry} {info : TypeInfo} {infos : List TypeInfo}

/-! ### Attempts -/

/-- The registry after an attempt to register a type. -/
def attempt (registry : TypeRegistry) (info : TypeInfo) : TypeRegistry :=
  match registry.register info with
  | .ok extended => extended
  | .error _ => registry

/-- The types that are not refused when they are registered one after the other. -/
def accepted : TypeRegistry → List TypeInfo → List TypeInfo
  | _, [] => []
  | registry, info :: rest =>
    match registry.register info with
    | .ok extended => info :: extended.accepted rest
    | .error _ => registry.accepted rest

/-- The key of the type is not registered, and neither of its names is one of a registered type. -/
structure Free (registry : TypeRegistry) (info : TypeInfo) : Prop where
  key : ∀ other ∈ registry.types, other.key ≠ info.key
  name : ∀ other ∈ registry.types, info.name ≠ other.name ∧ info.name ≠ other.plural
  plural : ∀ other ∈ registry.types, info.plural ≠ other.name ∧ info.plural ≠ other.plural

theorem not_isTaken_iff {name : String} : ¬ registry.isTaken name
    ↔ ∀ other ∈ registry.types, name ≠ other.name ∧ name ≠ other.plural := by
  rw [isTaken, List.any_eq_true, not_exists]
  apply forall_congr'
  intro other
  rw [not_and, Bool.or_eq_true, beq_iff_eq, beq_iff_eq, not_or, ne_comm, ne_comm (b := other.plural)]

theorem get?_eq_none_iff {key : TypeKey} :
    registry.get? key = none ↔ ∀ other ∈ registry.types, other.key ≠ key := by
  rw [get?, List.find?_eq_none]
  simp only [decide_eq_true_eq, ne_eq]

/-- A type is free just if the registry knows neither its key nor its names. -/
theorem free_iff : registry.Free info
    ↔ registry.get? info.key = none ∧ ¬ registry.isTaken info.name ∧ ¬ registry.isTaken info.plural := by
  rw [get?_eq_none_iff, not_isTaken_iff, not_isTaken_iff]
  exact ⟨fun free => ⟨free.key, free.name, free.plural⟩, fun ⟨key, name, plural⟩ => ⟨key, name, plural⟩⟩

/-- A type is registered, behind all others, just if it is free. -/
theorem register_eq_ok_iff {extended : TypeRegistry} : registry.register info = .ok extended
    ↔ registry.Free info ∧ extended = { registry with types := registry.types ++ [info] } := by
  rw [free_iff]
  constructor
  · intro registers
    obtain ⟨key, name, plural, same⟩ := register_eq_ok registers
    exact ⟨⟨key, name, plural⟩, same⟩
  · rintro ⟨⟨key, name, plural⟩, rfl⟩
    rw [register, key, if_neg (by simp), if_neg name, if_neg plural]

/-- An attempt registers a type that is free, and does nothing otherwise. -/
theorem attempt_cases (registry : TypeRegistry) (info : TypeInfo) :
    registry.Free info ∧ registry.register info = .ok (registry.attempt info)
        ∧ registry.attempt info = { registry with types := registry.types ++ [info] }
      ∨ ¬ registry.Free info ∧ registry.attempt info = registry
        ∧ ∃ error, registry.register info = .error error := by
  rw [attempt]
  cases registers : registry.register info with
  | ok extended =>
      obtain ⟨free, same⟩ := register_eq_ok_iff.1 registers
      exact .inl ⟨free, rfl, same⟩
  | error error =>
      refine .inr ⟨fun free => ?_, rfl, error, rfl⟩
      rw [register_eq_ok_iff.2 ⟨free, rfl⟩] at registers
      cases registers

/-- The types in a registry are those that were accepted, behind those that were there. -/
theorem types_attempts (registry : TypeRegistry) (infos : List TypeInfo) :
    (infos.foldl attempt registry).types = registry.types ++ registry.accepted infos := by
  induction infos generalizing registry with
  | nil => exact (List.append_nil _).symm
  | cons info rest ih =>
      rw [List.foldl_cons, ih, accepted]
      rcases registry.attempt_cases info with ⟨-, registers, extended⟩ | ⟨-, same, error, refused⟩
      · rw [registers, extended, List.append_assoc]
        rfl
      · rw [refused, same]

/-! ### What stays true -/

/-- No name calls two types, no key is that of two types, and all names are in lower case. -/
structure Settled (registry : TypeRegistry) : Prop where
  unambiguous : registry.Unambiguous
  distinct : (registry.types.map (·.key)).Nodup
  lower : ∀ info ∈ registry.types, Text.IsLower info.name ∧ Text.IsLower info.plural

namespace Settled

theorem empty : Settled {} where
  unambiguous _ listed := absurd listed List.not_mem_nil
  distinct := List.nodup_nil
  lower _ listed := absurd listed List.not_mem_nil

theorem attempt (settled : registry.Settled) (built : info.Built) : (registry.attempt info).Settled := by
  rcases registry.attempt_cases info with ⟨free, registers, extended⟩ | ⟨-, same, -⟩
  · have unambiguous := settled.unambiguous.register registers
    rw [extended] at unambiguous ⊢
    refine ⟨unambiguous, ?_, List.forall_mem_append.2 ⟨settled.lower, ?_⟩⟩
    · rw [List.map_append, List.nodup_append]
      refine ⟨settled.distinct, List.nodup_singleton _, ?_⟩
      intro key listed other new same
      obtain ⟨info', mem, rfl⟩ := List.mem_map.1 listed
      exact free.key info' mem (same.trans (List.mem_singleton.1 new))
    · exact List.forall_mem_singleton.2 built.isLower
  · rw [same]
    exact settled

theorem attempts (settled : registry.Settled) (built : ∀ info ∈ infos, info.Built) :
    (infos.foldl TypeRegistry.attempt registry).Settled := by
  induction infos generalizing registry with
  | nil => exact settled
  | cons info rest ih =>
      obtain ⟨here, others⟩ := List.forall_mem_cons.1 built
      exact ih (settled.attempt here) others

variable {query : String}

/-- A type is found by its name in any letter case. -/
theorem lookup_name (settled : registry.Settled) (listed : info ∈ registry.types)
    (same : Text.lowercase query = Text.lowercase info.name) :
    registry.lookup query = some (info, false) := by
  apply lookup_eq_of_called settled.unambiguous listed
  exact .singular (same.trans (settled.lower info listed).1.lowercase_eq)

/-- A type is found by its plural in any letter case. -/
theorem lookup_plural (settled : registry.Settled) (listed : info ∈ registry.types)
    (differs : info.plural ≠ info.name) (same : Text.lowercase query = Text.lowercase info.plural) :
    registry.lookup query = some (info, true) := by
  apply lookup_eq_of_called settled.unambiguous listed
  exact .plural (same.trans (settled.lower info listed).2.lowercase_eq) differs

/-- A type is found by its key. -/
theorem get?_key (settled : registry.Settled) (listed : info ∈ registry.types) :
    registry.get? info.key = some info := by
  cases found : registry.get? info.key with
  | none => exact absurd rfl (get?_eq_none_iff.1 found info listed)
  | some other =>
      have same : other.key = info.key := by simpa using List.find?_some found
      rw [List.inj_on_of_nodup_map settled.distinct (List.mem_of_find?_eq_some found) listed same]

end Settled

/-- Nothing is found for names that no registered type has. -/
theorem lookup_of_unknown {query : String}
    (unknown : ∀ info ∈ registry.types,
      Text.lowercase query ≠ info.name ∧ Text.lowercase query ≠ info.plural) :
    registry.lookup query = none := by
  rw [← Option.not_isSome_iff_eq_none, isSome_lookup_iff]
  rintro ⟨info, listed, plural, called⟩
  obtain ⟨name, other⟩ := unknown info listed
  exact called.same_or.elim (name ∘ Eq.symm) (other ∘ Eq.symm)

end TypeRegistry

/-! ### Places in the indexes -/

theorem placeOfName_lt {name : String} {place found : Nat} {plural : Bool} {types : List TypeInfo}
    (stands : placeOfName name place types = some (found, plural)) : found < place + types.length := by
  induction types generalizing place with
  | nil => cases stands
  | cons info rest ih =>
      rw [List.length_cons]
      rw [placeOfName] at stands
      split at stands
      · cases stands
        omega
      split at stands
      · cases stands
        omega
      have further := ih stands
      omega

namespace Ledger.Sound

variable {ledger : Ledger}

/-- What is stored for a name is the place of a registered type. -/
theorem name_lt (sound : ledger.Sound) {name : String} {place : Nat} {plural : Bool}
    (stored : ledger.byName.get? name = some (place, plural)) :
    place < ledger.registrar.types.types.length := by
  rw [sound.names] at stored
  exact Nat.lt_of_lt_of_eq (placeOfName_lt stored) (Nat.zero_add _)

/-- So is what is stored for a key. -/
theorem key_lt (sound : ledger.Sound) {key : TypeKey} {place : Nat}
    (stored : ledger.byKey.get? key = some place) : place < ledger.registrar.types.types.length := by
  rw [sound.keys] at stored
  exact (List.findIdx?_eq_some_iff_getElem.1 stored).1

/-- Registering a type with the indexes comes to the same as without. -/
theorem perform_type (sound : ledger.Sound) (info : TypeInfo) :
    (ledger.perform (.type info)).1 = (ledger.registrar.types.register info).map (fun _ => ())
      ∧ (ledger.perform (.type info)).2.registrar.types = ledger.registrar.types.attempt info := by
  rcases sound.perform_cases (.type info) with ⟨error, performed, refused⟩ | ⟨next, -, performed, enrolled⟩
  · rw [performed]
    rw [Registrar.enrol] at refused
    rw [TypeRegistry.attempt]
    cases registers : ledger.registrar.types.register info with
    | ok types =>
        rw [registers] at refused
        cases refused
    | error other =>
        rw [registers] at refused
        cases refused
        exact ⟨rfl, rfl⟩
  · rw [performed]
    rw [Registrar.enrol] at enrolled
    rw [TypeRegistry.attempt]
    cases registers : ledger.registrar.types.register info with
    | ok types =>
        rw [registers] at enrolled
        exact ⟨rfl, (congrArg Registrar.types (Except.ok.inj enrolled)).symm⟩
    | error other =>
        rw [registers] at enrolled
        cases enrolled

theorem types_performAll (sound : ledger.Sound) (infos : List TypeInfo) :
    (ledger.performAll (infos.map .type)).registrar.types
      = infos.foldl TypeRegistry.attempt ledger.registrar.types := by
  induction infos generalizing ledger with
  | nil => rfl
  | cons info rest ih =>
      have next : (ledger.perform (.type info)).2.Sound := sound.performAll [.type info]
      rw [List.foldl_cons, ← (sound.perform_type info).2]
      exact ih next

end Ledger.Sound

/-- Each type of the registry is found by its name in any letter case and, in the same way but with the
flag set, by its plural if that is another name; each is found by its key; and nothing is found for names and
keys that none of them has. -/
structure TypeRegistry.FindsItsTypes (registry : TypeRegistry) : Prop where
  name : ∀ info ∈ registry.types, ∀ query, Text.lowercase query = Text.lowercase info.name →
    registry.lookup query = some (info, false)
  plural : ∀ info ∈ registry.types, info.plural ≠ info.name →
    ∀ query, Text.lowercase query = Text.lowercase info.plural →
      registry.lookup query = some (info, true)
  key : ∀ info ∈ registry.types, registry.get? info.key = some info
  otherName : ∀ query, (∀ info ∈ registry.types,
      Text.lowercase query ≠ info.name ∧ Text.lowercase query ≠ info.plural) →
    registry.lookup query = none
  otherKey : ∀ key, (∀ info ∈ registry.types, info.key ≠ key) → registry.get? key = none

/-- A ledger keeps the types of the registry. What its indexes store are places in the list, what is found
there is what a search of the list finds, and one more type is accepted or refused alike. -/
structure Ledger.Indexes (ledger : Ledger) (registry : TypeRegistry) : Prop where
  types : ledger.registrar.types = registry
  name_inside : ∀ name place plural, ledger.byName.get? name = some (place, plural) →
    place < registry.types.length
  key_inside : ∀ key place, ledger.byKey.get? key = some place → place < registry.types.length
  lookup : ∀ query, ledger.lookup query = registry.lookup query
  type? : ∀ key, ledger.type? key = registry.get? key
  perform : ∀ info, (ledger.perform (.type info)).1 = (registry.register info).map fun _ => ()

theorem TypeRegistry.Settled.findsItsTypes {registry : TypeRegistry} (settled : registry.Settled) :
    registry.FindsItsTypes where
  name _ listed _ := settled.lookup_name listed
  plural _ listed differs _ := settled.lookup_plural listed differs
  key _ := settled.get?_key
  otherName _ := lookup_of_unknown
  otherKey _ := get?_eq_none_iff.2

theorem Ledger.Sound.indexes {ledger : Ledger} (sound : ledger.Sound) :
    ledger.Indexes ledger.registrar.types where
  types := rfl
  name_inside _ _ _ := sound.name_lt
  key_inside _ _ := sound.key_lt
  lookup := sound.lookup_eq
  type? := sound.type?_eq
  perform info := (sound.perform_type info).1

/-- Registered types are found. After attempts to register any types, each of which may be refused, one more
is registered just if neither its key nor one of its names is that of a registered type. The registered types
are those that were accepted, in order; they are found by their names and keys, and nothing else is; and
indexes that are written on the way lead to them. -/
theorem registered_types_are_found {infos : List TypeInfo} (built : ∀ info ∈ infos, info.Built) :
    let registry := infos.foldl TypeRegistry.attempt {}
    (∀ info, (∃ extended, registry.register info = .ok extended) ↔ registry.Free info)
    ∧ registry.types = TypeRegistry.accepted {} infos
    ∧ registry.FindsItsTypes
    ∧ (({} : Ledger).performAll (infos.map .type)).Indexes registry := by
  intro registry
  have settled : registry.Settled := TypeRegistry.Settled.empty.attempts built
  have indexes := (Ledger.Sound.fresh.performAll (infos.map .type)).indexes
  rw [Ledger.Sound.fresh.types_performAll] at indexes
  refine ⟨?_, TypeRegistry.types_attempts {} infos, settled.findsItsTypes, indexes⟩
  intro info
  simp only [TypeRegistry.register_eq_ok_iff, exists_and_left, exists_eq, and_true]

/-- A type whose plural is its name, and one whose plural is not. -/
def sheepType : TypeInfo :=
  (TypeInfo.named (.named "Sheep") "Sheep").withPlural "SHEEP"

def fishType : TypeInfo :=
  (TypeInfo.named (.named "Fish") "fish").withPlural "Fishes"

/-- Types that are refused beside them, for a plural that is a name and for a key. -/
def schoolType : TypeInfo :=
  (TypeInfo.named (.named "School") "school").withPlural "FISH"

def lambType : TypeInfo :=
  .named (.named "Sheep") "lamb"

theorem registered_types_are_found_sheep :
    (∀ info ∈ [sheepType, fishType, schoolType, lambType], info.Built)
      ∧ TypeRegistry.accepted {} [sheepType, fishType, schoolType, lambType] = [sheepType, fishType]
      ∧ let registry := [sheepType, fishType, schoolType, lambType].foldl TypeRegistry.attempt {}
        registry.lookup "SheEp" = some (sheepType, false)
          ∧ registry.lookup "FISHES" = some (fishType, true)
          ∧ registry.lookup "school" = none
          ∧ ¬ registry.Free schoolType := by
  have built : ∀ info ∈ [sheepType, fishType, schoolType, lambType], info.Built := by
    rw [List.forall_mem_cons, List.forall_mem_cons, List.forall_mem_cons, List.forall_mem_singleton]
    exact ⟨.withPlural (.named ..) _, .withPlural (.named ..) _, .withPlural (.named ..) _, .named ..⟩
  have accepted : TypeRegistry.accepted {} [sheepType, fishType, schoolType, lambType]
      = [sheepType, fishType] := by
    with_unfolding_all rfl
  obtain ⟨-, types, finds, -⟩ := registered_types_are_found built
  rw [accepted] at types
  refine ⟨built, accepted, ?_, ?_, ?_, ?_⟩
  · apply finds.name sheepType
    · rw [types]
      exact List.mem_cons_self
    · decide +kernel
  · apply finds.plural fishType
    · rw [types]
      exact List.mem_cons_of_mem _ List.mem_cons_self
    · decide +kernel
    · decide +kernel
  · apply finds.otherName
    rw [types]
    decide +kernel
  · intro free
    apply (free.plural fishType ?_).1
    · decide +kernel
    · rw [types]
      exact List.mem_cons_of_mem _ List.mem_cons_self

end ScriptBridge
