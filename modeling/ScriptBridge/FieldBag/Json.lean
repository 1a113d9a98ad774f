import ScriptBridge.FieldBag.Basic
import ScriptBridge.Decimal.Style
import ScriptBridge.Json.Number
/-!
Field bags as JSON. A bag is an object from names to fields; a field is an object with the members
`kind` and `value`, and is also read from an array of the two. Reading keeps the first place and the
last value of a repeated name.
-/

namespace ScriptBridge

/-- Numbers of 64 bits in JSON: an exponent below `1e-5` and from `1e16` on, which is `1e+16`. -/
def Decimal.Style.jsonDouble : Decimal.Style := ⟨some (-5, 15), true, true, .even⟩

/-- Numbers of 32 bits in JSON: an exponent below `1e-6` and from `1e13` on, which is `1e+13`. -/
def Decimal.Style.jsonSingle : Decimal.Style := ⟨some (-6, 12), true, true, .even⟩

namespace Json

/-- A character within a JSON string. -/
def escapedChar (c : Char) : List Char :=
  if c = '"' then ['\\', '"']
  else if c = '\\' then ['\\', '\\']
  else if c = '\x08' then ['\\', 'b']
  else if c = '\t' then ['\\', 't']
  else if c = '\n' then ['\\', 'n']
  else if c = '\x0c' then ['\\', 'f']
  else if c = '\r' then ['\\', 'r']
  else if c.toNat < 32 then '\\' :: 'u' :: Text.paddedHexDigits 4 c.toNat
  else [c]

/-- A text as a JSON string. -/
def writeString (text : String) : String :=
  String.ofList ('"' :: text.toList.flatMap escapedChar ++ ['"'])

end Json

mutual

/-- The value of a field in JSON; a number that is not finite is written as `null`. -/
def Field.toJson : Field → String
  | .boolean value => if value then "true" else "false"
  | .integer value => toString value.toInt
  | .single value => if value.isFinite then Decimal.Style.jsonSingle.single value else "null"
  | .double value => if value.isFinite then Decimal.Style.jsonDouble.double value else "null"
  | .text value => Json.writeString value
  | .bag fields => "\x7b" ++ ",".intercalate (Field.membersJson fields) ++ "\x7d"

/-- The fields of a bag as members of a JSON object. -/
def Field.membersJson : List (String × Field) → List String
  | [] => []
  | (name, field) :: rest =>
    (Json.writeString name ++ ":\x7b\"kind\":" ++ Json.writeString field.kind ++ ",\"value\":"
      ++ Field.toJson field ++ "\x7d")
      :: Field.membersJson rest

end

/-- The JSON text of a bag, without spaces. -/
def FieldBag.toJson (bag : FieldBag) : String :=
  (Field.bag bag.fields).toJson

namespace Json

/-- How deep arrays and objects may be nested in what is read. -/
def depthLimit : Nat := 127

mutual

/-- How deep a document nests arrays and objects. -/
def Document.depth : Document → Nat
  | .array items => Document.itemsDepth items + 1
  | .object members => Document.membersDepth members + 1
  | _ => 0

/-- The greatest depth of the items. -/
def Document.itemsDepth : List Document → Nat
  | [] => 0
  | item :: rest => max item.depth (Document.itemsDepth rest)

/-- The greatest depth of the members. -/
def Document.membersDepth : List (Option String × Document) → Nat
  | [] => 0
  | (_, value) :: rest => max value.depth (Document.membersDepth rest)

end

mutual

/-- Whether every string, name and number in the document has a value. -/
def Document.hasValues : Document → Bool
  | .number numeral => numeral.value?.isSome
  | .string content => content.isSome
  | .array items => Document.itemsHaveValues items
  | .object members => Document.membersHaveValues members
  | _ => true

/-- Whether everything in the items has a value. -/
def Document.itemsHaveValues : List Document → Bool
  | [] => true
  | item :: rest => item.hasValues && Document.itemsHaveValues rest

/-- Whether everything in the members has a value. -/
def Document.membersHaveValues : List (Option String × Document) → Bool
  | [] => true
  | (name, value) :: rest =>
    name.isSome && value.hasValues && Document.membersHaveValues rest

end

/-- The kinds of fields. -/
inductive FieldKind where
  | boolean | integer | single | double | text | bag
deriving DecidableEq, Repr

/-- The kind with this name. -/
def FieldKind.ofName? : String → Option FieldKind
  | "bool" => some .boolean
  | "int" => some .integer
  | "float" => some .single
  | "double" => some .double
  | "text" => some .text
  | "bag" => some .bag
  | _ => none

/-- The kinds in the order by which what was set aside may number them. -/
def FieldKind.all : List FieldKind := [.boolean, .integer, .single, .double, .text, .bag]

/-- The kind that the first of two items names: a string. What was set aside before reading may also give
the number of the kind. -/
def FieldKind.ofItem? (setAside : Bool) : Document → Option FieldKind
  | .string (some name) => ofName? name
  | .number numeral =>
    match numeral.value? with
    | some (.natural n) => if setAside then all[n]? else none
    | _ => none
  | _ => none

/-- The kind that a member names: a string, or an object whose only member has that name and no content.
What was set aside before reading may also have an empty object as content. -/
def FieldKind.ofMember? (depth : Nat) (setAside : Bool) : Document → Option FieldKind
  | .string (some name) => ofName? name
  | .object [(some name, .null)] => if depth < depthLimit then ofName? name else none
  | .object [(some name, .object [])] => if setAside then ofName? name else none
  | _ => none

/-- A number as a whole one of 64 bits with sign. -/
def Number.toInteger? : Number → Option Int64
  | .natural n => if n < wordBound / 2 then some (Int64.ofNat n) else none
  | .negative n => some (Int64.ofInt n)
  | .float _ => none

/-- A number as one of 64 bits. -/
def Number.toDouble : Number → Float
  | .natural n => n.toUInt64.toFloat
  | .negative n => (Int64.ofInt n).toFloat
  | .float x => x

/-- A number as one of 32 bits. -/
def Number.toSingle : Number → Float32
  | .natural n => n.toUInt64.toFloat32
  | .negative n => (Int64.ofInt n).toFloat32
  | .float x => x.toFloat32

/-- What the members of a field amount to while they are read in order: the kind, the value, and
whether the value came first and was set aside. -/
structure FieldParts where
  kind : Option Document := none
  value : Option Document := none
  setAside : Bool := false

/-- Takes the members of a field in order; a repeated `kind` or `value` is refused. -/
def FieldParts.collect : FieldParts → List (Option String × Document) → Option FieldParts
  | parts, [] => some parts
  | _, (none, _) :: _ => none
  | parts, (some "kind", document) :: rest =>
    if parts.kind.isSome then none else collect { parts with kind := some document } rest
  | parts, (some "value", document) :: rest =>
    if parts.value.isSome then none
    else
      collect { parts with value := some document, setAside := parts.kind.isNone } rest
  | parts, (some _, _) :: rest => collect parts rest

/-- A primitive of the given kind. -/
def primitive? : FieldKind → Document → Option Field
  | .boolean, .boolean value => some (.boolean value)
  | .integer, .number numeral => numeral.value? >>= (·.toInteger?) |>.map .integer
  | .single, .number numeral => numeral.value?.map (.single ·.toSingle)
  | .double, .number numeral => numeral.value?.map (.double ·.toDouble)
  | .text, .string (some value) => some (.text value)
  | _, _ => none

/-- Whether a document may be set aside for later reading at this depth. -/
def mayBeSetAside (depth : Nat) (document : Document) : Bool :=
  depth + document.depth ≤ depthLimit && document.hasValues

mutual

/-- Reads a field that stands `depth` containers deep; `fuel` bounds the calls below it. -/
def fieldOf? : Nat → Nat → Bool → Document → Option Field
  | 0, _, _, _ => none
  | fuel + 1, depth, setAside, document =>
    if !setAside && depthLimit ≤ depth then none
    else
      match document with
      | .object members => do
        let parts ← FieldParts.collect {} members
        let kind ← parts.kind
        let value ← parts.value
        if parts.setAside && !setAside && !mayBeSetAside (depth + 1) value then none
        else
          let kind ← FieldKind.ofMember? (depth + 1) setAside kind
          contentOf? fuel (depth + 1) (setAside || parts.setAside) kind value
      | .array [kind, value] => do
        let kind ← FieldKind.ofItem? setAside kind
        contentOf? fuel (depth + 1) setAside kind value
      | _ => none

/-- Reads the content of a field of a known kind. -/
def contentOf? : Nat → Nat → Bool → FieldKind → Document → Option Field
  | 0, _, _, _, _ => none
  | fuel + 1, depth, setAside, kind, document =>
    match kind, document with
    | .bag, .object members =>
      if !setAside && depthLimit ≤ depth then none
      else (fieldsOf? fuel (depth + 1) setAside [] members).map .bag
    | _, _ => primitive? kind document

/-- Reads the fields of a bag in order after those already read. -/
def fieldsOf? : Nat → Nat → Bool → List (String × Field) → List (Option String × Document) →
    Option (List (String × Field))
  | 0, _, _, _, _ => none
  | _ + 1, _, _, fields, [] => some fields
  | _ + 1, _, _, _, (none, _) :: _ => none
  | fuel + 1, depth, setAside, fields, (some name, document) :: rest => do
    let field ← fieldOf? fuel depth setAside document
    fieldsOf? fuel depth setAside (Table.store name field fields) rest

end

end Json

/-- Reads a bag from its JSON text. -/
def FieldBag.ofJson? (text : String) : Option FieldBag := do
  let document ← Json.Document.parse? text
  match ← Json.contentOf? (2 * text.length + 2) 0 false .bag document with
  | .bag fields => pure ⟨fields⟩
  | _ => none

end ScriptBridge
