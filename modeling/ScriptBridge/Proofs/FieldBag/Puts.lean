import Mathlib.Data.List.Induction
import ScriptBridge.FieldBag.Basic
/-!
What a bag holds after any number of puts. Primitives of five kinds and nested bags are put under names,
and a name may be put again, with something of another kind. Main statement: the names of a bag are those
that were put, each once, in the order in which they were put first; and what is read under a name tells
what was put there last, if it is asked for by its kind, that it is of another kind, or that nothing was put.
-/

namespace ScriptBridge

/-! ### Kinds of primitives -/

/-- The kinds of primitives. -/
inductive PrimitiveKind where
  | boolean
  | integer
  | single
  | double
  | text
deriving DecidableEq, Repr

namespace PrimitiveKind

/-- What primitives of a kind are. -/
abbrev Held : PrimitiveKind → Type
  | .boolean => Bool
  | .integer => Int64
  | .single => Float32
  | .double => Float
  | .text => String

/-- How primitives of a kind are stored and read. -/
def primitive : (kind : PrimitiveKind) → Primitive kind.Held
  | .boolean => .boolean
  | .integer => .integer
  | .single => .single
  | .double => .double
  | .text => .text

variable {kind other : PrimitiveKind}

theorem ofField?_toField (value : kind.Held) :
    kind.primitive.ofField? (kind.primitive.toField value) = some value := by
  cases kind <;> rfl

/-- A primitive is not read as one of another kind. -/
theorem ofField?_toField_of_ne (differs : other ≠ kind) (value : other.Held) :
    kind.primitive.ofField? (other.primitive.toField value) = none := by
  cases kind <;> cases other <;> first | rfl | exact absurd rfl differs

/-- A nested bag is not read as a primitive. -/
theorem ofField?_bag (fields : List (String × Field)) :
    kind.primitive.ofField? (.bag fields) = none := by
  cases kind <;> rfl

end PrimitiveKind

/-! ### Puts -/

/-- Something that is put into a bag under a name. -/
inductive Put where
  | primitive (kind : PrimitiveKind) (name : String) (value : kind.Held)
  | bag (name : String) (nested : FieldBag)

namespace Put

/-- The name under which it is put. -/
def name : Put → String
  | .primitive _ name _ => name
  | .bag name _ => name

/-- The kind of a primitive; nested bags have none. -/
def kind? : Put → Option PrimitiveKind
  | .primitive kind .. => some kind
  | .bag .. => none

/-- The bag with what is put. -/
def on (bag : FieldBag) : Put → FieldBag
  | .primitive kind name value => bag.put kind.primitive name value
  | .bag name nested => bag.putBag name nested

/-- What is stored by it. -/
def field : Put → Field
  | .primitive kind _ value => kind.primitive.toField value
  | .bag _ nested => .bag nested.fields

theorem on_eq (bag : FieldBag) (put : Put) : put.on bag = bag.putField put.name put.field := by
  cases put <;> rfl

variable {put : Put} {kind : PrimitiveKind}

/-- What is stored is read as a primitive of a kind, if one of that kind was put. -/
theorem ofField?_field_eq_some_iff {value : kind.Held} :
    kind.primitive.ofField? put.field = some value ↔ put = .primitive kind put.name value := by
  cases put with
  | primitive other name held =>
      by_cases same : other = kind
      · subst same
        simp [field, Put.name, PrimitiveKind.ofField?_toField]
      · simp [field, PrimitiveKind.ofField?_toField_of_ne same, same]
  | bag name nested => simp [field, PrimitiveKind.ofField?_bag]

theorem ofField?_field_eq_none_iff :
    kind.primitive.ofField? put.field = none ↔ put.kind? ≠ some kind := by
  cases put with
  | primitive other name held =>
      by_cases same : other = kind
      · subst same
        simp [field, kind?, PrimitiveKind.ofField?_toField]
      · simp [field, kind?, PrimitiveKind.ofField?_toField_of_ne same, same]
  | bag name nested => simp [field, kind?, PrimitiveKind.ofField?_bag]

/-- What is stored is a nested bag, if one was put. -/
theorem field_eq_bag_iff {fields : List (String × Field)} :
    put.field = .bag fields ↔ put = .bag put.name ⟨fields⟩ := by
  cases put with
  | primitive other name held =>
      refine iff_of_false (fun same => ?_) nofun
      have read := PrimitiveKind.ofField?_toField held
      rw [show other.primitive.toField held = .bag fields from same, PrimitiveKind.ofField?_bag] at read
      cases read
  | bag name nested =>
      obtain ⟨held⟩ := nested
      simp [field, Put.name]

/-- Of another kind than nested bags are just the primitives. -/
theorem isPrimitive_iff : (∀ fields, put.field ≠ .bag fields) ↔ put.kind? ≠ none := by
  simp only [ne_eq, field_eq_bag_iff]
  cases put with
  | primitive kind name value => exact iff_of_true nofun nofun
  | bag name nested => exact iff_of_false (fun other => other nested.fields rfl) fun some => some rfl

end Put

/-- The last put under a name. -/
def lastPut? (puts : List Put) (name : String) : Option Put :=
  (puts.filter (·.name = name)).getLast?

/-- The place of the first put under a name. -/
def firstPut (puts : List Put) (name : String) : Nat :=
  puts.findIdx (·.name = name)

section

variable {puts : List Put} {put : Put} {name : String}

theorem lastPut?_concat (puts : List Put) (put : Put) (name : String) :
    lastPut? (puts ++ [put]) name = if put.name = name then some put else lastPut? puts name := by
  rw [lastPut?, List.filter_append, lastPut?]
  by_cases named : put.name = name <;> simp [named]

theorem lastPut?_eq_none_iff : lastPut? puts name = none ↔ ∀ put ∈ puts, put.name ≠ name := by
  simp [lastPut?]

theorem name_of_lastPut? (last : lastPut? puts name = some put) : put.name = name := by
  have listed := List.mem_of_getLast? last
  simpa using (List.mem_filter.1 listed).2

/-- The first put under a name has a place, and later ones do not move it. -/
theorem firstPut_lt (known : ∃ put ∈ puts, put.name = name) : firstPut puts name < puts.length := by
  simpa [firstPut, List.findIdx_lt_length] using known

theorem firstPut_append (known : ∃ put ∈ puts, put.name = name) (others : List Put) :
    firstPut (puts ++ others) name = firstPut puts name := by
  rw [firstPut, List.findIdx_append]
  exact if_pos (firstPut_lt known)

/-- The first put under a new name is behind all others. -/
theorem le_firstPut_concat (new : ¬ ∃ put ∈ puts, put.name = name) (put : Put) :
    puts.length ≤ firstPut (puts ++ [put]) name := by
  have behind : ¬ puts.findIdx (·.name = name) < puts.length := by
    simpa [List.findIdx_lt_length] using new
  rw [firstPut, List.findIdx_append, if_neg behind]
  exact Nat.le_add_left ..

end

namespace FieldBag

variable {bag : FieldBag} {puts : List Put} {name : String} {kind : PrimitiveKind}

/-- The bag that puts make of the empty one. -/
def filled (puts : List Put) : FieldBag :=
  puts.foldl Put.on {}

theorem filled_concat (puts : List Put) (put : Put) :
    filled (puts ++ [put]) = (filled puts).putField put.name put.field := by
  rw [filled, List.foldl_append, List.foldl_cons, List.foldl_nil, put.on_eq]
  rfl

/-! ### Names -/

/-- The names of a bag are those that were put. -/
theorem mem_names_filled : name ∈ (filled puts).names ↔ ∃ put ∈ puts, put.name = name := by
  induction puts using List.reverseRecOn with
  | nil => simp [filled, names]
  | append_singleton puts put ih =>
      rw [filled_concat, names_putField]
      split
      · next known => grind
      · grind

/-- They are in the order in which they were put first. -/
theorem names_filled_ascend (puts : List Put) :
    (filled puts).names.Pairwise fun name other => firstPut puts name < firstPut puts other := by
  induction puts using List.reverseRecOn with
  | nil => exact .nil
  | append_singleton puts put ih =>
      have kept : (filled puts).names.Pairwise fun name other =>
          firstPut (puts ++ [put]) name < firstPut (puts ++ [put]) other :=
        ih.imp_of_mem fun first second lt => by
          rwa [firstPut_append (mem_names_filled.1 first), firstPut_append (mem_names_filled.1 second)]
      rw [filled_concat, names_putField]
      split
      · exact kept
      next new =>
      refine List.pairwise_append.2 ⟨kept, List.pairwise_singleton .., ?_⟩
      intro name known other listed
      obtain rfl := List.mem_singleton.1 listed
      have place := mem_names_filled.1 known
      calc firstPut (puts ++ [put]) name
          = firstPut puts name := firstPut_append place [put]
        _ < puts.length := firstPut_lt place
        _ ≤ firstPut (puts ++ [put]) put.name := le_firstPut_concat (mt mem_names_filled.2 new) put

/-! ### Reading -/

/-- What is found under a name is what was put there last. -/
theorem get?_filled (puts : List Put) (name : String) :
    (filled puts).get? name = (lastPut? puts name).map Put.field := by
  induction puts using List.reverseRecOn with
  | nil => rfl
  | append_singleton puts put ih =>
      rw [filled_concat, get?_putField, ih, lastPut?_concat]
      split <;> rfl

theorem exists_get?_filled_iff {holds : Field → Prop} :
    (∃ field, (filled puts).get? name = some field ∧ holds field)
      ↔ ∃ put, lastPut? puts name = some put ∧ holds put.field := by
  simp [get?_filled]

/-- A primitive is read where one of its kind was put last. -/
theorem get_filled_eq_ok_iff {value : kind.Held} :
    (filled puts).get kind.primitive name = .ok value
      ↔ lastPut? puts name = some (.primitive kind name value) := by
  simp only [get_eq_ok_iff, exists_get?_filled_iff, Put.ofField?_field_eq_some_iff]
  constructor
  · rintro ⟨put, last, same⟩
    rw [last, same, name_of_lastPut? last]
  · intro last
    exact ⟨_, last, rfl⟩

/-- A nested bag is read where one was put last. -/
theorem getBag_filled_eq_ok_iff {nested : FieldBag} :
    (filled puts).getBag name = .ok nested ↔ lastPut? puts name = some (.bag name nested) := by
  rw [getBag_eq_ok_iff, get?_filled, Option.map_eq_some_iff]
  constructor
  · rintro ⟨put, last, same⟩
    rw [last, Put.field_eq_bag_iff.1 same, name_of_lastPut? last]
  · intro last
    exact ⟨_, last, rfl⟩

theorem get?_filled_eq_none_iff :
    (filled puts).get? name = none ↔ ∀ put ∈ puts, put.name ≠ name := by
  rw [get?_filled, Option.map_eq_none_iff, lastPut?_eq_none_iff]

/-- A put leaves the other names alone. -/
theorem get?_on_of_ne {put : Put} (differs : put.name ≠ name) :
    (put.on bag).get? name = bag.get? name := by
  rw [put.on_eq, get?_putField, if_neg differs]

end FieldBag

/-- What a bag holds after any number of puts into an empty one. Its names are those under which something
was put, each once, in the order in which they were put first. A primitive of a kind is read under a name
just if one of that kind was put there last, and it is that one; the kind is wrong just if what was put there
last is of another kind or a nested bag; and the field is missing just if nothing was put there. For nested
bags it is the same. And a put under one name changes nothing of what is read under another. -/
theorem puts_read_back (puts : List Put) :
    let bag := FieldBag.filled puts
    (bag.names.Nodup ∧ (∀ name, name ∈ bag.names ↔ ∃ put ∈ puts, put.name = name)
      ∧ bag.names.Pairwise fun name other => firstPut puts name < firstPut puts other)
    ∧ (∀ (kind : PrimitiveKind) name,
      (∀ value, bag.get kind.primitive name = .ok value
        ↔ lastPut? puts name = some (.primitive kind name value))
      ∧ (bag.get kind.primitive name = .error (.wrongFieldType name kind.primitive.kind)
        ↔ ∃ put, lastPut? puts name = some put ∧ put.kind? ≠ some kind)
      ∧ (bag.get kind.primitive name = .error (.missingField name)
        ↔ ∀ put ∈ puts, put.name ≠ name))
    ∧ (∀ name,
      (∀ nested, bag.getBag name = .ok nested ↔ lastPut? puts name = some (.bag name nested))
      ∧ (bag.getBag name = .error (.wrongFieldType name "bag")
        ↔ ∃ put, lastPut? puts name = some put ∧ put.kind? ≠ none)
      ∧ (bag.getBag name = .error (.missingField name) ↔ ∀ put ∈ puts, put.name ≠ name))
    ∧ ∀ (put : Put) name, put.name ≠ name →
      (∀ kind : PrimitiveKind, (put.on bag).get kind.primitive name = bag.get kind.primitive name)
      ∧ (put.on bag).getBag name = bag.getBag name := by
  refine ⟨⟨?_, fun name => FieldBag.mem_names_filled, FieldBag.names_filled_ascend puts⟩, ?_, ?_, ?_⟩
  · exact (FieldBag.names_filled_ascend puts).imp fun lt same => by simp [same] at lt
  · intro kind name
    refine ⟨fun value => FieldBag.get_filled_eq_ok_iff, ?_, ?_⟩
    · rw [FieldBag.get_eq_wrong_iff, FieldBag.exists_get?_filled_iff]
      simp only [Put.ofField?_field_eq_none_iff]
    · rw [FieldBag.get_eq_missing_iff, FieldBag.get?_filled_eq_none_iff]
  · intro name
    refine ⟨fun nested => FieldBag.getBag_filled_eq_ok_iff, ?_, ?_⟩
    · rw [FieldBag.getBag_eq_wrong_iff, FieldBag.exists_get?_filled_iff]
      simp only [Put.isPrimitive_iff]
    · rw [FieldBag.getBag_eq_missing_iff, FieldBag.get?_filled_eq_none_iff]
  · intro put name differs
    have same : (put.on (.filled puts)).get? name = _ := FieldBag.get?_on_of_ne differs
    exact ⟨fun kind => by rw [FieldBag.get, same, FieldBag.get],
      by rw [FieldBag.getBag, same, FieldBag.getBag]⟩

end ScriptBridge
