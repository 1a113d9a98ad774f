import ScriptBridge.Error
import ScriptBridge.Table
/-!
Field bags: the form in which values are persisted. A bag maps names to primitives or to further bags
and keeps the order in which the names first came. The kind of a field is part of what is stored, so
a `float` read as a `double` is an error.
-/

namespace ScriptBridge

/-- A stored field: a primitive, or the fields of a nested bag. -/
inductive Field where
  | boolean (value : Bool)
  | integer (value : Int64)
  | single (value : Float32)
  | double (value : Float)
  | text (value : String)
  | bag (fields : List (String × Field))

/-- The kind of a field as errors name it. -/
def Field.kind : Field → String
  | .boolean _ => "bool"
  | .integer _ => "int"
  | .single _ => "float"
  | .double _ => "double"
  | .text _ => "text"
  | .bag _ => "bag"

/-- Ordered named fields. -/
structure FieldBag where
  fields : List (String × Field) := []

/-- A primitive kind of fields as the program reads and writes it. -/
structure Primitive (α : Type) where
  kind : String
  toField : α → Field
  ofField? : Field → Option α

namespace Primitive

/-- Truth values. -/
def boolean : Primitive Bool where
  kind := "bool"
  toField := .boolean
  ofField?
    | .boolean value => some value
    | _ => none

/-- Whole numbers. -/
def integer : Primitive Int64 where
  kind := "int"
  toField := .integer
  ofField?
    | .integer value => some value
    | _ => none

/-- Numbers of 32 bits. -/
def single : Primitive Float32 where
  kind := "float"
  toField := .single
  ofField?
    | .single value => some value
    | _ => none

/-- Numbers of 64 bits. -/
def double : Primitive Float where
  kind := "double"
  toField := .double
  ofField?
    | .double value => some value
    | _ => none

/-- Texts. -/
def text : Primitive String where
  kind := "text"
  toField := .text
  ofField?
    | .text value => some value
    | _ => none

end Primitive

namespace FieldBag

/-- The field under a name. -/
def get? (bag : FieldBag) (name : String) : Option Field :=
  Table.find name bag.fields

/-- Stores a field under a name. -/
def putField (bag : FieldBag) (name : String) (field : Field) : FieldBag :=
  ⟨Table.store name field bag.fields⟩

/-- Stores a primitive under a name, in place of what was there. -/
def put {α : Type} (bag : FieldBag) (primitive : Primitive α) (name : String) (value : α) : FieldBag :=
  bag.putField name (primitive.toField value)

/-- Stores a nested bag under a name, in place of what was there. -/
def putBag (bag : FieldBag) (name : String) (nested : FieldBag) : FieldBag :=
  bag.putField name (.bag nested.fields)

/-- Reads the primitive under a name. -/
def get {α : Type} (bag : FieldBag) (primitive : Primitive α) (name : String) :
    Except ConversionError α :=
  match bag.get? name with
  | none => .error (.missingField name)
  | some field =>
    match primitive.ofField? field with
    | some value => .ok value
    | none => .error (.wrongFieldType name primitive.kind)

/-- Reads the nested bag under a name. -/
def getBag (bag : FieldBag) (name : String) : Except ConversionError FieldBag :=
  match bag.get? name with
  | none => .error (.missingField name)
  | some (.bag fields) => .ok ⟨fields⟩
  | some _ => .error (.wrongFieldType name "bag")

/-- Reads the field under a name, which must be of a kind. -/
def getKind (bag : FieldBag) (kind name : String) : Except ConversionError Field :=
  match bag.get? name with
  | none => .error (.missingField name)
  | some field => if field.kind = kind then .ok field else .error (.wrongFieldType name kind)

/-- Whether there is a field under the name. -/
def contains (bag : FieldBag) (name : String) : Bool :=
  (bag.get? name).isSome

/-- The names in the order in which they first came. -/
def names (bag : FieldBag) : List String :=
  bag.fields.map (·.1)

/-- The number of fields. -/
def size (bag : FieldBag) : Nat :=
  bag.fields.length

/-- What is stored under a name is found there, and the other names keep their fields. -/
theorem get?_putField (bag : FieldBag) (name other : String) (field : Field) :
    (bag.putField name field).get? other = if name = other then some field else bag.get? other :=
  Table.find_store bag.fields name other field

/-- A new name goes to the end, a known one stays where it is. -/
theorem names_putField (bag : FieldBag) (name : String) (field : Field) :
    (bag.putField name field).names = if name ∈ bag.names then bag.names else bag.names ++ [name] :=
  Table.keys_store bag.fields name field

section

variable {α : Type} {bag : FieldBag} {primitive : Primitive α} {name : String}

/-- A primitive is read where one of its kind is stored. -/
theorem get_eq_ok_iff {value : α} : bag.get primitive name = .ok value
    ↔ ∃ field, bag.get? name = some field ∧ primitive.ofField? field = some value := by
  rw [get]
  cases bag.get? name with
  | none => simp
  | some field => cases read : primitive.ofField? field <;> simp [read]

theorem get_eq_wrong_iff : bag.get primitive name = .error (.wrongFieldType name primitive.kind)
    ↔ ∃ field, bag.get? name = some field ∧ primitive.ofField? field = none := by
  rw [get]
  cases bag.get? name with
  | none => simp
  | some field => cases read : primitive.ofField? field <;> simp [read]

theorem get_eq_missing_iff :
    bag.get primitive name = .error (.missingField name) ↔ bag.get? name = none := by
  rw [get]
  cases bag.get? name with
  | none => simp
  | some field => cases read : primitive.ofField? field <;> simp [read]

/-- A nested bag is read where one is stored. -/
theorem getBag_eq_ok_iff {nested : FieldBag} :
    bag.getBag name = .ok nested ↔ bag.get? name = some (.bag nested.fields) := by
  obtain ⟨fields⟩ := nested
  rw [getBag]
  cases bag.get? name with
  | none => simp
  | some field => cases field <;> simp

theorem getBag_eq_wrong_iff : bag.getBag name = .error (.wrongFieldType name "bag")
    ↔ ∃ field, bag.get? name = some field ∧ ∀ fields, field ≠ .bag fields := by
  rw [getBag]
  cases bag.get? name with
  | none => simp
  | some field => cases field <;> simp

theorem getBag_eq_missing_iff :
    bag.getBag name = .error (.missingField name) ↔ bag.get? name = none := by
  rw [getBag]
  cases bag.get? name with
  | none => simp
  | some field => cases field <;> simp

end

end FieldBag

mutual

/-- Whether two fields hold the same. Numbers are compared as numbers, so that zeros of either sign
are the same and what is not a number differs from itself; bags are compared without their order. -/
def Field.same : Field → Field → Bool
  | .boolean a, .boolean b => a == b
  | .integer a, .integer b => a == b
  | .single a, .single b => a == b
  | .double a, .double b => a == b
  | .text a, .text b => a == b
  | .bag fields, .bag others => fields.length == others.length && Field.allSame fields others
  | _, _ => false

/-- Whether each of the fields is the same among the others. -/
def Field.allSame : List (String × Field) → List (String × Field) → Bool
  | [], _ => true
  | (name, field) :: rest, others =>
    (match Table.find name others with
      | some other => Field.same field other
      | none => false)
      && Field.allSame rest others

end

/-- Whether two bags hold the same fields, in whatever order. -/
def FieldBag.same (bag other : FieldBag) : Bool :=
  (Field.bag bag.fields).same (.bag other.fields)

end ScriptBridge
