import Mathlib.Data.List.Forall2
import ScriptBridge.Proofs.Json.Numerals
import ScriptBridge.Proofs.Json.Strings
/-!
Field bags survive JSON. The text of a field is read as one document, and from that document, under the
kind that is written next to it, the field is read again: a bag member by member, in the order of the text,
so that names, order, kinds and values all come back. A bag within a bag stands two containers deeper,
which the reader bears up to its limit.
-/

namespace ScriptBridge

open Json

/-! ### What can be stored -/

/-- A field that can be stored: its numbers have texts that read back as the same numbers, no bag names
a field twice, and bags are nested at most `depth` deep. -/
inductive Field.Storable : Nat → Field → Prop where
  | boolean {depth : Nat} (value : Bool) : Storable depth (.boolean value)
  | integer {depth : Nat} (value : Int64) : Storable depth (.integer value)
  | single {depth : Nat} (value : Float32)
      (same : (readNumber? (Field.single value).toJson).map Number.toSingle = some value) :
      Storable depth (.single value)
  | double {depth : Nat} (value : Float)
      (same : (readNumber? (Field.double value).toJson).map Number.toDouble = some value) :
      Storable depth (.double value)
  | text {depth : Nat} (value : String) : Storable depth (.text value)
  | bag {depth : Nat} {fields : List (String × Field)} (distinct : (fields.map (·.1)).Nodup)
      (each : ∀ field ∈ fields, Storable depth field.2) : Storable (depth + 1) (.bag fields)

/-- A bag that can be stored, with bags nested in it at most `depth` deep. -/
structure FieldBag.Storable (depth : Nat) (bag : FieldBag) : Prop where
  distinct : bag.names.Nodup
  each : ∀ field ∈ bag.fields, field.2.Storable depth

namespace FieldBag.Storable

variable {depth : Nat} {bag : FieldBag}

theorem empty : (⟨[]⟩ : FieldBag).Storable depth where
  distinct := List.nodup_nil
  each := by simp

/-- A bag stays one that can be stored when a field is put into it. -/
theorem putField (storable : bag.Storable depth) {field : Field} (fits : field.Storable depth)
    (name : String) : (bag.putField name field).Storable depth where
  distinct := Table.nodup_keys_store storable.distinct name field
  each := by
    intro entry mem
    rcases Table.mem_store mem with rfl | mem
    · exact fits
    · exact storable.each entry mem

/-- Or another bag, one level less deep. -/
theorem putBag (storable : bag.Storable (depth + 1)) {nested : FieldBag}
    (fits : nested.Storable depth) (name : String) :
    (bag.putBag name nested).Storable (depth + 1) :=
  storable.putField (.bag fits.distinct fits.each) name

end FieldBag.Storable

/-! ### The text of members -/

/-- The text of a field of a bag as it stands behind its name. -/
def Field.tagged (field : Field) : String :=
  "\x7b\"kind\":" ++ writeString field.kind ++ ",\"value\":" ++ field.toJson ++ "\x7d"

/-- The text of the members of a bag. -/
def Field.members (fields : List (String × Field)) : String :=
  ",".intercalate (Field.membersJson fields)

theorem Field.toJson_bag (fields : List (String × Field)) :
    (Field.bag fields).toJson.toList = '\x7b' :: ((Field.members fields).toList ++ ['\x7d']) := by
  simp [Field.toJson, Field.members]

theorem Field.length_bag (fields : List (String × Field)) :
    (Field.bag fields).toJson.length = (Field.members fields).length + 2 := by
  simp [← String.length_toList, Field.toJson_bag]

theorem Field.members_singleton (name : String) (field : Field) :
    (Field.members [(name, field)]).toList
      = (writeString name).toList ++ ':' :: field.tagged.toList := by
  simp [Field.members, Field.membersJson, Field.tagged]

theorem Field.members_cons (name : String) (field : Field) {others : List (String × Field)}
    (nonempty : others ≠ []) :
    (Field.members ((name, field) :: others)).toList
      = (writeString name).toList ++ ':' :: (field.tagged.toList
        ++ ',' :: (Field.members others).toList) := by
  cases others with
  | nil => exact absurd rfl nonempty
  | cons other others =>
      obtain ⟨other, next⟩ := other
      simp [Field.members, Field.membersJson, Field.tagged, String.intercalate_cons_cons]

/-- The kind in front of a field takes room. -/
theorem Field.length_tagged (field : Field) : field.toJson.length + 3 ≤ field.tagged.length := by
  have brace : "\x7d".length = 1 := rfl
  have comma : 2 ≤ ",\"value\":".length := by decide
  simp only [Field.tagged, String.length_append, brace]
  omega

/-- A member takes room for itself besides that of the others. -/
theorem Field.length_members (name : String) (field : Field) (others : List (String × Field)) :
    field.tagged.length ≤ (Field.members ((name, field) :: others)).length
      ∧ (Field.members others).length < (Field.members ((name, field) :: others)).length := by
  by_cases last : others = []
  · subst last
    have empty : (Field.members []).length = 0 := rfl
    simp only [empty, ← String.length_toList, Field.members_singleton, List.length_append,
      List.length_cons]
    omega
  · simp only [← String.length_toList, Field.members_cons _ _ last, List.length_append,
      List.length_cons]
    omega

/-! ### Reading documents -/

/-- A member begins with its name between quotes. -/
theorem toList_member (name : String) (text : List Char) :
    (writeString name).toList ++ ':' :: text
      = '"' :: (name.toList.flatMap escapedChar ++ '"' :: ':' :: text) := by
  simp [toList_writeString]

theorem readMembers_last {fuel : Nat} {name : String} {text rest : List Char} {value : Document}
    (read : readDocument fuel text = some (value, '\x7d' :: rest)) :
    readMembers (fuel + 1) ((writeString name).toList ++ ':' :: text)
      = some ([(some name, value)], rest) := by
  obtain ⟨pieces, nameRead, joined⟩ := readPieces_written name.toList (':' :: text)
  rw [toList_member, readMembers]
  simp [skipSpace, isSpace, nameRead, joined, read]

theorem readMembers_more {fuel : Nat} {name : String} {text tail rest : List Char}
    {value : Document} {members : List (Option String × Document)}
    (read : readDocument fuel text = some (value, ',' :: tail))
    (more : readMembers fuel tail = some (members, rest)) :
    readMembers (fuel + 1) ((writeString name).toList ++ ':' :: text)
      = some ((some name, value) :: members, rest) := by
  obtain ⟨pieces, nameRead, joined⟩ := readPieces_written name.toList (':' :: text)
  rw [toList_member, readMembers]
  simp [skipSpace, isSpace, nameRead, joined, read, more]

/-- Members in braces are read as an object. -/
theorem readDocument_object {fuel : Nat} {text rest : List Char}
    {members : List (Option String × Document)}
    (read : readMembers fuel text = some (members, rest)) :
    readDocument (fuel + 1) ('\x7b' :: text) = some (.object members, rest) := by
  have notEmpty : ∀ after, skipSpace text ≠ '\x7d' :: after := by
    intro after empty
    cases fuel with
    | zero => simp [readMembers] at read
    | succ fuel => simp [readMembers, empty] at read
  have brace : skipSpace ('\x7b' :: text) = '\x7b' :: text := rfl
  simp [readDocument, brace, read]

/-- A number is read as a document of its own. -/
theorem readDocument_number {text rest : List Char} {numeral : Numeral} (fuel : Nat)
    (read : readNumeral text = some (numeral, rest)) :
    readDocument (fuel + 1) text = some (.number numeral, rest) := by
  obtain ⟨c, others, rfl, leads⟩ := exists_of_readNumeral read
  have noSpace : skipSpace (c :: others) = c :: others := by
    rcases leads with rfl | digit
    · rfl
    · have := not_isSpace_of_isDigit digit
      simp [skipSpace, this]
  rw [readDocument, noSpace]
  split
  iterate 6
    · next same =>
        cases same
        rcases leads with wrong | wrong <;> cases wrong
  · simp [read]

/-! ### Reading a field -/

/-- The kind of a field as a reader tells it. -/
def Field.told : Field → FieldKind
  | .boolean _ => .boolean
  | .integer _ => .integer
  | .single _ => .single
  | .double _ => .double
  | .text _ => .text
  | .bag _ => .bag

theorem Field.ofName?_kind (field : Field) : FieldKind.ofName? field.kind = some field.told := by
  cases field <;> rfl

/-- The document as which a field stands behind its name. -/
def Field.object (field : Field) (content : Document) : Document :=
  .object [(some "kind", .string (some field.kind)), (some "value", content)]

/-- A document that the text of a field is read as, and from which the field is read, with room for
bags nested `depth` deep. -/
structure Field.ReadAs (depth : Nat) (field : Field) (content : Document) : Prop where
  document : ∀ fuel rest, field.toJson.length ≤ fuel →
    readDocument fuel (field.toJson.toList ++ '\x7d' :: rest) = some (content, '\x7d' :: rest)
  content : ∀ fuel level, field.toJson.length ≤ fuel → level + 2 * depth < depthLimit →
    contentOf? fuel level false field.told content = some field

namespace Field.ReadAs

variable {depth : Nat} {field : Field} {content : Document}

/-- A primitive is read from its document at once. -/
theorem primitive (notBag : field.told ≠ .bag) (reads : primitive? field.told content = some field)
    (nonempty : 0 < field.toJson.length)
    (document : ∀ fuel rest, readDocument (fuel + 1) (field.toJson.toList ++ '\x7d' :: rest)
      = some (content, '\x7d' :: rest)) : field.ReadAs depth content where
  document := by
    intro fuel rest enough
    obtain ⟨fuel, rfl⟩ := Nat.exists_eq_succ_of_ne_zero (n := fuel) (by omega)
    exact document fuel rest
  content := by
    intro fuel level enough _
    obtain ⟨fuel, rfl⟩ := Nat.exists_eq_succ_of_ne_zero (n := fuel) (by omega)
    rw [contentOf?]
    · exact reads
    · exact fun _ bag _ => notBag bag

/-- A number is read from its document if its text reads back. -/
theorem number {α : Type} {value : α} {of : Number → Option α} (notBag : field.told ≠ .bag)
    (same : (readNumber? field.toJson).bind of = some value)
    (reads : ∀ numeral, numeral.value?.bind of = some value →
      primitive? field.told (.number numeral) = some field) :
    ∃ content, field.ReadAs depth content := by
  unfold readNumber? at same
  split at same
  · next numeral written =>
      have nonempty : 0 < field.toJson.length := by
        rw [← String.length_toList]
        refine List.length_pos_iff.2 fun empty => ?_
        rw [empty] at written
        cases written
      refine ⟨.number numeral, primitive notBag (reads numeral same) nonempty fun fuel rest => ?_⟩
      exact readDocument_number fuel (readNumeral_append endsNumeral_brace written)
  · cases same

theorem boolean (value : Bool) : (Field.boolean value).ReadAs depth (.boolean value) := by
  cases value with
  | false => exact primitive (by decide) rfl (by decide) fun _ _ => rfl
  | true => exact primitive (by decide) rfl (by decide) fun _ _ => rfl

theorem integer (value : Int64) : ∃ content, (Field.integer value).ReadAs depth content := by
  have written : (Field.integer value).toJson = toString value.toInt := by rw [toJson]
  have same := readNumber?_integer value
  rw [← written] at same
  apply number (by simp [told]) same
  intro numeral same
  show (numeral.value?.bind Number.toInteger?).map Field.integer = some (.integer value)
  rw [same, Option.map_some]

theorem single {value : Float32}
    (same : (readNumber? (Field.single value).toJson).map Number.toSingle = some value) :
    ∃ content, (Field.single value).ReadAs depth content := by
  rw [Option.map_eq_bind] at same
  apply number (by simp [told]) same
  intro numeral same
  rw [← Option.map_eq_bind] at same
  show numeral.value?.map (Field.single ∘ Number.toSingle) = some (.single value)
  rw [← Option.map_map, same, Option.map_some]

theorem double {value : Float}
    (same : (readNumber? (Field.double value).toJson).map Number.toDouble = some value) :
    ∃ content, (Field.double value).ReadAs depth content := by
  rw [Option.map_eq_bind] at same
  apply number (by simp [told]) same
  intro numeral same
  rw [← Option.map_eq_bind] at same
  show numeral.value?.map (Field.double ∘ Number.toDouble) = some (.double value)
  rw [← Option.map_map, same, Option.map_some]

theorem text (value : String) : (Field.text value).ReadAs depth (.string (some value)) := by
  have written : (Field.text value).toJson = writeString value := by rw [toJson]
  apply primitive (by simp [told]) rfl
  · rw [written, ← String.length_toList, toList_writeString]
    exact Nat.zero_lt_succ _
  · intro fuel rest
    rw [written]
    exact readDocument_writeString fuel value _

/-- With its kind in front of it, a field is read as an object, whatever stands behind. -/
theorem tagged (readAs : field.ReadAs depth content) (rest : List Char) (fuel : Nat)
    (enough : field.tagged.length ≤ fuel) :
    readDocument fuel (field.tagged.toList ++ rest) = some (field.object content, rest) := by
  have written : field.tagged.toList ++ rest = '\x7b' :: ((writeString "kind").toList ++ ':' ::
      ((writeString field.kind).toList ++ ',' :: ((writeString "value").toList ++ ':' ::
        (field.toJson.toList ++ '\x7d' :: rest)))) := by
    simp [Field.tagged, toList_writeString, escapedChar]
  obtain ⟨fuel, rfl⟩ := Nat.exists_eq_add_of_le (Nat.le_trans field.length_tagged enough)
  rw [written, Nat.add_comm, ← Nat.add_assoc]
  refine readDocument_object (readMembers_more (readDocument_writeString _ _ _) ?_)
  exact readMembers_last (readAs.document _ rest (by omega))

/-- From that object it is read under its kind. -/
theorem fieldOf? (readAs : field.ReadAs depth content) {fuel level : Nat}
    (enough : field.toJson.length < fuel) (shallow : level + 1 + 2 * depth < depthLimit) :
    fieldOf? fuel level false (field.object content) = some field := by
  obtain ⟨fuel, rfl⟩ := Nat.exists_eq_succ_of_ne_zero (n := fuel) (by omega)
  have above : ¬ depthLimit ≤ level := by omega
  simp [Json.fieldOf?, Field.object, above, FieldParts.collect, FieldKind.ofMember?,
    Field.ofName?_kind]
  exact readAs.content fuel (level + 1) (by omega) shallow

end Field.ReadAs

/-! ### Reading a bag -/

/-- A member of an object that a field of a bag is read as, under its name. -/
inductive Field.MemberReadAs (depth : Nat) : String × Field → Option String × Document → Prop where
  | named {name : String} {field : Field} {content : Document}
      (readAs : field.ReadAs depth content) :
      MemberReadAs depth (name, field) (some name, field.object content)

section

variable {depth : Nat} {fields : List (String × Field)} {members : List (Option String × Document)}

/-- The text of members is read member by member, up to the closing brace. -/
theorem readMembers_of_readAs (readAs : List.Forall₂ (Field.MemberReadAs depth) fields members)
    (nonempty : fields ≠ []) (rest : List Char) (fuel : Nat)
    (enough : (Field.members fields).length < fuel) :
    readMembers fuel ((Field.members fields).toList ++ '\x7d' :: rest) = some (members, rest) := by
  induction readAs generalizing fuel with
  | nil => exact absurd rfl nonempty
  | @cons first member others behind firstReadAs behindReadAs ih =>
      obtain @⟨name, field, content, readAs⟩ := firstReadAs
      obtain ⟨room, less⟩ := Field.length_members name field others
      obtain ⟨fuel, rfl⟩ := Nat.exists_eq_succ_of_ne_zero (n := fuel) (by omega)
      by_cases last : others = []
      · subst last
        cases behindReadAs
        rw [Field.members_singleton, List.append_assoc, List.cons_append]
        exact readMembers_last (readAs.tagged _ fuel (by omega))
      · rw [Field.members_cons _ _ last, List.append_assoc, List.cons_append, List.append_assoc,
          List.cons_append]
        exact readMembers_more (readAs.tagged _ fuel (by omega)) (ih last fuel (by omega))

/-- From members that name each field once, the fields are read in order, behind those already read. -/
theorem fieldsOf?_of_readAs (readAs : List.Forall₂ (Field.MemberReadAs depth) fields members)
    {level : Nat} (shallow : level + 1 + 2 * depth < depthLimit) (fuel : Nat)
    (enough : (Field.members fields).length < fuel) (before : List (String × Field))
    (distinct : ((before ++ fields).map (·.1)).Nodup) :
    fieldsOf? fuel level false before members = some (before ++ fields) := by
  induction readAs generalizing fuel before with
  | nil =>
      obtain ⟨fuel, rfl⟩ := Nat.exists_eq_succ_of_ne_zero (n := fuel) (by omega)
      simp [fieldsOf?]
  | @cons first member others behind firstReadAs _ ih =>
      obtain @⟨name, field, content, readAs⟩ := firstReadAs
      obtain ⟨room, less⟩ := Field.length_members name field others
      have tagged := field.length_tagged
      obtain ⟨fuel, rfl⟩ := Nat.exists_eq_succ_of_ne_zero (n := fuel) (by omega)
      -- the name is new, so the field goes to the end
      have new : name ∉ before.map (·.1) := by
        intro mem
        rw [List.map_append, List.map_cons] at distinct
        exact (List.nodup_append.1 distinct).2.2 name mem name List.mem_cons_self rfl
      have together : before ++ (name, field) :: others = before ++ [(name, field)] ++ others := by
        simp
      rw [together] at distinct ⊢
      rw [fieldsOf?, readAs.fieldOf? (by omega) shallow, Option.bind_eq_bind, Option.bind_some,
        Table.store_of_not_mem new]
      exact ih fuel (by omega) _ distinct

/-- The text of a bag is read as an object, whatever stands behind. -/
theorem readDocument_bag (readAs : List.Forall₂ (Field.MemberReadAs depth) fields members)
    (rest : List Char) (fuel : Nat) (enough : (Field.bag fields).toJson.length ≤ fuel) :
    readDocument fuel ((Field.bag fields).toJson.toList ++ rest) = some (.object members, rest) := by
  rw [Field.length_bag] at enough
  obtain ⟨fuel, rfl⟩ := Nat.exists_eq_succ_of_ne_zero (n := fuel) (by omega)
  rw [Field.toJson_bag, List.cons_append, List.append_assoc]
  by_cases empty : fields = []
  · subst empty
    cases readAs
    rfl
  · exact readDocument_object (readMembers_of_readAs readAs empty rest fuel (by omega))

/-- A bag is read from its members if none of them is repeated. -/
theorem Field.ReadAs.bag (readAs : List.Forall₂ (Field.MemberReadAs depth) fields members)
    (distinct : (fields.map (·.1)).Nodup) :
    (Field.bag fields).ReadAs (depth + 1) (.object members) where
  document := fun fuel rest enough => readDocument_bag readAs _ fuel enough
  content := by
    intro fuel level enough shallow
    rw [Field.length_bag] at enough
    obtain ⟨fuel, rfl⟩ := Nat.exists_eq_succ_of_ne_zero (n := fuel) (by omega)
    have above : ¬ depthLimit ≤ level := by omega
    have read : fieldsOf? fuel (level + 1) false [] members = some ([] ++ fields) :=
      fieldsOf?_of_readAs readAs (by omega) fuel (by omega) [] distinct
    simp [Field.told, contentOf?, above, read]

/-- If each field is read from a document of its own, they are read from members together. -/
theorem exists_members_of_each
    (each : ∀ field ∈ fields, ∃ content, field.2.ReadAs depth content) :
    ∃ members, List.Forall₂ (Field.MemberReadAs depth) fields members := by
  induction fields with
  | nil => exact ⟨[], .nil⟩
  | cons field fields ih =>
      obtain ⟨content, readAs⟩ := each field List.mem_cons_self
      obtain ⟨members, others⟩ := ih fun other mem => each other (List.mem_cons_of_mem _ mem)
      exact ⟨_ :: members, .cons (.named readAs) others⟩

/-- Every field that can be stored is read from some document that its text is read as. -/
theorem Field.Storable.readAs {field : Field} (storable : field.Storable depth) :
    ∃ content, field.ReadAs depth content := by
  induction storable with
  | boolean value => exact ⟨_, .boolean value⟩
  | integer value => exact ReadAs.integer value
  | single value same => exact ReadAs.single same
  | double value same => exact ReadAs.double same
  | text value => exact ⟨_, .text value⟩
  | @bag depth fields distinct each ih =>
      obtain ⟨members, readAs⟩ := exists_members_of_each ih
      exact ⟨_, .bag readAs distinct⟩

end

/-- A field bag survives JSON: its text is read back as a bag with the same names in the same order at
every level, and the same kind and value in every field. -/
theorem FieldBag.ofJson?_toJson {bag : FieldBag} (storable : bag.Storable 60) :
    FieldBag.ofJson? bag.toJson = some bag := by
  obtain ⟨members, readAs⟩ := exists_members_of_each fun field mem => (storable.each field mem).readAs
  have room : bag.toJson.length ≤ 2 * bag.toJson.length + 2 := by omega
  have read : readDocument (2 * bag.toJson.length + 2) bag.toJson.toList
      = some (.object members, []) := by
    have read := readDocument_bag readAs [] _ room
    rwa [List.append_nil] at read
  have content : contentOf? (2 * bag.toJson.length + 2) 0 false .bag (.object members)
      = some (.bag bag.fields) :=
    (Field.ReadAs.bag readAs storable.distinct).content _ 0 room (by decide)
  have parsed : Document.parse? bag.toJson = some (.object members) := by
    rw [← String.length_toList] at read
    exact Option.bind_eq_some_iff.2 ⟨_, read, rfl⟩
  simp only [FieldBag.ofJson?, parsed, content, Option.bind_eq_bind, Option.bind_some]
  rfl

/-- A bag in a bag, with a text and a name that need escapes. -/
def FieldBag.keepsake : FieldBag :=
  let inner := ({} : FieldBag).put .boolean "a \\ b" true
  ((({} : FieldBag).put .text "note" "say \"hi\"\n\x01").put .integer "count" (-5)).put .double "share" 0.1
    |>.putBag "inner" inner

theorem FieldBag.ofJson?_keepsake :
    keepsake.Storable 60 ∧ FieldBag.ofJson? keepsake.toJson = some keepsake := by
  have share : (readNumber? (Field.double 0.1).toJson).map Number.toDouble = some 0.1 := by
    simp only [Field.toJson]
    decide +kernel
  have inner : (({} : FieldBag).put .boolean "a \\ b" true).Storable 59 :=
    Storable.empty.putField (.boolean true) _
  have storable : keepsake.Storable 60 :=
    (((Storable.empty.putField (.text _) _).putField (.integer _) _).putField (.double 0.1 share) _).putBag
      inner _
  exact ⟨storable, ofJson?_toJson storable⟩

end ScriptBridge
