import ScriptBridge.Builtins.Types
import ScriptBridge.Proofs.Expressions.Values
import ScriptBridge.Proofs.FieldBag.Puts
/-!
Values are persisted whole or not at all. A type may make a blank value and fill it in place, or read a new
one; a target that is there already is filled. Main statement: for each built-in type that can be persisted
these ways come to the same, for any bag: a value is read just if a target is filled with it, and if reading
fails, filling fails for the same cause and leaves the target as it was. What was written is read back from
any bag that has its fields, and values of other types are refused.
-/

namespace ScriptBridge

/-! ### Bags with the same fields and more -/

/-- The other bag has all fields of a bag, in any order, and perhaps further ones under other names. -/
structure FieldBag.Widens (other bag : FieldBag) : Prop where
  distinct : other.names.Nodup
  has : ∃ added, other.fields.Perm (bag.fields ++ added)

theorem FieldBag.Widens.get?_eq {other bag : FieldBag} (widens : other.Widens bag) {name : String}
    {field : Field} (listed : (name, field) ∈ bag.fields) : other.get? name = some field := by
  obtain ⟨added, same⟩ := widens.has
  exact Table.find_of_mem widens.distinct (same.mem_iff.2 (List.mem_append_left added listed))

/-- A field that was written is read from it. -/
theorem FieldBag.Widens.get_eq {other bag : FieldBag} (widens : other.Widens bag) {name : String}
    (kind : PrimitiveKind) {value : kind.Held}
    (listed : (name, kind.primitive.toField value) ∈ bag.fields) :
    other.get kind.primitive name = .ok value :=
  FieldBag.get_eq_ok_iff.2 ⟨_, widens.get?_eq listed, PrimitiveKind.ofField?_toField value⟩

/-! ### Codecs -/

namespace ValueKind

/-- The values that belong to the type of the kind are those that it makes. -/
def Owns {α : Type} (kind : ValueKind α) : Prop :=
  ∀ value, value.key = kind.key ↔ ∃ held, value = kind.toValue held

theorem owns_number : Owns .number := by
  intro value
  cases value <;> simp [number, Value.key]

theorem owns_text : Owns .text := by
  intro value
  cases value <;> simp [text, Value.key]

theorem owns_boolean : Owns .boolean := by
  intro value
  cases value <;> simp [boolean, Value.key]

theorem owns_position : Owns .position := by
  intro value
  cases value <;> simp [position, Value.key]

end ValueKind

/-- Filling is reading, where a failure leaves the target as it was; what is written is read back; and the
values of the kind are those that belong to its type. -/
structure Codec.Sound {α : Type} (codec : Codec α) : Prop where
  faithful : codec.kind.Faithful
  owns : codec.kind.Owns
  fills : ∀ target bag, codec.fill target bag = match codec.read bag with
    | .ok value => (value, .ok ())
    | .error error => (target, .error error)
  rereads : ∀ value other, other.Widens (codec.write value) → codec.read other = .ok value

namespace Codec.Sound

variable {α : Type} {codec : Codec α}

/-- It makes no difference whether a blank value is filled or a new one is read. -/
theorem read_eq (sound : codec.Sound) (bag : FieldBag) :
    codec.toSerializer.read bag = (codec.read bag).map codec.kind.toValue := by
  rw [Codec.toSerializer]
  simp only
  split
  · next blank _ =>
      rw [sound.fills]
      cases codec.read bag <;> rfl
  · rfl

/-- A value of the type is filled with what is read, or left as it was. -/
theorem fill_eq (sound : codec.Sound) {target : Value} (own : target.key = codec.kind.key)
    (bag : FieldBag) : codec.toSerializer.fill target bag = match codec.read bag with
      | .ok value => (codec.kind.toValue value, .ok ())
      | .error error => (target, .error error) := by
  obtain ⟨held, rfl⟩ := (sound.owns target).1 own
  rw [Codec.toSerializer]
  simp only [(sound.faithful _ held).2 rfl, sound.fills]
  cases codec.read bag <;> rfl

theorem ofValue?_of_foreign (sound : codec.Sound) {value : Value} (foreign : value.key ≠ codec.kind.key) :
    codec.kind.ofValue? value = none := by
  rw [Option.eq_none_iff_forall_ne_some]
  intro held holds
  exact foreign ((sound.owns value).2 ⟨held, (sound.faithful value held).1 holds⟩)

end Codec.Sound

/-! ### Types that are persisted through a codec -/

/-- The values of the type are persisted through the codec. -/
structure TypeInfo.Through {α : Type} (info : TypeInfo) (codec : Codec α) : Prop where
  sound : codec.Sound
  key_eq : info.key = codec.kind.key
  serializer_eq : info.serializer = some codec.toSerializer

namespace TypeInfo.Through

variable {α : Type} {info : TypeInfo} {codec : Codec α}

theorem requireSerializer_eq (through : info.Through codec) :
    info.requireSerializer = .ok codec.toSerializer := by
  rw [requireSerializer, through.serializer_eq]

theorem deserialize_eq (through : info.Through codec) (bag : FieldBag) :
    info.deserialize bag = (codec.read bag).map codec.kind.toValue := by
  rw [deserialize, through.requireSerializer_eq]
  exact through.sound.read_eq bag

theorem deserializeInto_eq (through : info.Through codec) {target : Value} (own : target.key = info.key)
    (bag : FieldBag) : info.deserializeInto target bag = match codec.read bag with
      | .ok value => (codec.kind.toValue value, .ok ())
      | .error error => (target, .error error) := by
  rw [deserializeInto, through.requireSerializer_eq]
  exact through.sound.fill_eq (own.trans through.key_eq) bag

/-- What is written holds what is read back. -/
theorem serialize_toValue (through : info.Through codec) (held : α) :
    info.serialize (codec.kind.toValue held) = .ok (codec.write held) := by
  have holds := (through.sound.faithful (codec.kind.toValue held) held).2 rfl
  rw [serialize, through.requireSerializer_eq]
  simp [bind, Except.bind, Codec.toSerializer, holds]

theorem refuses_foreign (through : info.Through codec) {value : Value} (foreign : value.key ≠ info.key) :
    info.serialize value = .error (.typeMismatch info.name)
      ∧ ∀ bag, info.deserializeInto value bag = (value, .error (.typeMismatch info.key.path)) := by
  have holds := through.sound.ofValue?_of_foreign (through.key_eq ▸ foreign)
  constructor
  · rw [serialize, through.requireSerializer_eq]
    simp [bind, Except.bind, Codec.toSerializer, holds]
  · intro bag
    rw [deserializeInto, through.requireSerializer_eq, through.key_eq]
    simp [Codec.toSerializer, holds]

end TypeInfo.Through

namespace Builtins

/-- Primitives are read back from the field in which they are written. -/
theorem sound_primitiveCodec (kind : PrimitiveKind) {held : ValueKind kind.Held}
    (faithful : held.Faithful) (owns : held.Owns) (blank : kind.Held) :
    (primitiveCodec held kind.primitive blank).Sound where
  faithful
  owns
  fills _ _ := rfl
  rereads _ _ widens := widens.get_eq kind List.mem_cons_self

/-- Positions are read back from their five fields. -/
theorem readPosition_of_widens {p : Position} {other : FieldBag}
    (widens : other.Widens (writePosition p)) : readPosition other = .ok p := by
  have x : other.get .double "x" = .ok p.x :=
    widens.get_eq .double (List.mem_of_getElem? (i := 0) rfl)
  have y : other.get .double "y" = .ok p.y :=
    widens.get_eq .double (List.mem_of_getElem? (i := 1) rfl)
  have z : other.get .double "z" = .ok p.z :=
    widens.get_eq .double (List.mem_of_getElem? (i := 2) rfl)
  have yaw : other.get .single "yaw" = .ok p.yaw :=
    widens.get_eq .single (List.mem_of_getElem? (i := 3) rfl)
  have pitch : other.get .single "pitch" = .ok p.pitch :=
    widens.get_eq .single (List.mem_of_getElem? (i := 4) rfl)
  rw [readPosition, x, y, z, yaw, pitch]
  rfl

theorem sound_positionCodec : positionCodec.Sound where
  faithful := ValueKind.faithful_position
  owns := ValueKind.owns_position
  fills target bag := by
    simp only [positionCodec]
    cases readPosition bag <;> rfl
  rereads _ _ widens := readPosition_of_widens widens

/-- The built-in types that can be persisted have sound codecs. -/
theorem exists_through {named : Bool} {info : TypeInfo} (builtin : info ∈ valueTypes named)
    (serializable : info.isSerializable = true) :
    ∃ (α : Type) (codec : Codec α), info.Through codec := by
  simp only [valueTypes, List.mem_cons, List.not_mem_nil, or_false] at builtin
  rcases builtin with rfl | rfl | rfl | rfl | rfl | rfl
  · exact ⟨_, _, sound_primitiveCodec .double ValueKind.faithful_number ValueKind.owns_number 0, rfl, rfl⟩
  · exact ⟨_, _, sound_primitiveCodec .text ValueKind.faithful_text ValueKind.owns_text "", rfl, rfl⟩
  · exact ⟨_, _, sound_primitiveCodec .boolean ValueKind.faithful_boolean ValueKind.owns_boolean false, rfl, rfl⟩
  · cases serializable
  · cases serializable
  · exact ⟨_, _, sound_positionCodec, rfl, rfl⟩

/-- Values are persisted whole or not at all, for each built-in type that can be persisted. A value is read
from a bag just if a target of the type is filled with it, and reading fails just if filling fails for the
same cause and leaves the target as it was. A value of the type is written to a bag, and any bag with these
fields, in whatever order and with whatever others, gives it back both ways. A value of another type is
refused for its type, as something to write and as a target, which stays as it was. -/
theorem persisted_whole_or_not {named : Bool} {info : TypeInfo} (builtin : info ∈ valueTypes named)
    (serializable : info.isSerializable = true) :
    (∀ target bag, target.key = info.key →
      (∀ value, info.deserialize bag = .ok value ↔ info.deserializeInto target bag = (value, .ok ()))
      ∧ ∀ error, info.deserialize bag = .error error
        ↔ info.deserializeInto target bag = (target, .error error))
    ∧ (∀ value, value.key = info.key → ∃ bag, info.serialize value = .ok bag
      ∧ ∀ other, FieldBag.Widens other bag → info.deserialize other = .ok value
        ∧ ∀ target, target.key = info.key → info.deserializeInto target other = (value, .ok ()))
    ∧ ∀ foreign, foreign.key ≠ info.key →
      info.serialize foreign = .error (.typeMismatch info.name)
      ∧ ∀ bag, info.deserializeInto foreign bag = (foreign, .error (.typeMismatch info.key.path)) := by
  obtain ⟨α, codec, through⟩ := exists_through builtin serializable
  refine ⟨?_, ?_, fun foreign => through.refuses_foreign⟩
  · intro target bag own
    rw [through.deserialize_eq, through.deserializeInto_eq own]
    cases codec.read bag <;> simp [Except.map]
  · intro value own
    obtain ⟨held, rfl⟩ := (through.sound.owns value).1 (own.trans through.key_eq)
    refine ⟨_, through.serialize_toValue held, ?_⟩
    intro other widens
    have read := through.sound.rereads held other widens
    refine ⟨by rw [through.deserialize_eq, read]; rfl, ?_⟩
    intro target target_own
    rw [through.deserializeInto_eq target_own, read]

/-- The built-in types that can be persisted. -/
example (named : Bool) : ((valueTypes named).filter (·.isSerializable)).map (·.name)
    = ["number", "string", "boolean", "position"] := by
  with_unfolding_all rfl

/-- The fields of a position in the order opposite to that in which they are written, and a note. -/
def notedPosition : FieldBag :=
  ⟨[("note", .text "home"), ("pitch", .single 5), ("yaw", .single 4), ("z", .double 3), ("y", .double 2),
    ("x", .double 1)]⟩

/-- From these fields a position is read and filled. With a text in place of the third coordinate the
target stays as it was, though the first two could be read; and a truth value is no target. -/
theorem persisted_whole_or_not_position : ∃ info ∈ valueTypes true, info.isSerializable = true
    ∧ info.deserialize notedPosition = .ok (.position ⟨1, 2, 3, 4, 5⟩)
    ∧ info.deserializeInto (.position {}) notedPosition = (.position ⟨1, 2, 3, 4, 5⟩, .ok ())
    ∧ info.deserializeInto (.position {}) (notedPosition.put .text "z" "up")
      = (.position {}, .error (.wrongFieldType "z" "double"))
    ∧ info.deserializeInto (.boolean true) notedPosition
      = (.boolean true, .error (.typeMismatch "spindle::host::Position")) := by
  have listed : ∃ info, (valueTypes true)[5]? = some info := ⟨_, rfl⟩
  obtain ⟨info, place⟩ := listed
  have builtin := List.mem_of_getElem? place
  cases place
  obtain ⟨agree, back, refuse⟩ := persisted_whole_or_not builtin rfl
  obtain ⟨bag, written, read⟩ := back (.position ⟨1, 2, 3, 4, 5⟩) rfl
  cases written
  have widens : notedPosition.Widens (writePosition ⟨1, 2, 3, 4, 5⟩) :=
    ⟨by decide, [("note", .text "home")],
      List.reverse_perm ((writePosition ⟨1, 2, 3, 4, 5⟩).fields ++ [("note", Field.text "home")])⟩
  obtain ⟨whole, filled⟩ := read notedPosition widens
  exact ⟨_, builtin, rfl, whole, filled _ rfl, ((agree _ _ rfl).2 _).1 rfl, (refuse (.boolean true) (by decide)).2 _⟩

end Builtins

end ScriptBridge
