import ScriptBridge.FieldBag.Basic
import ScriptBridge.Match
/-!
Descriptions of value types: the names by which patterns call a type, how its values are read and
rendered, how they are persisted, and which expression stands in for a slot that is left out.
-/

namespace ScriptBridge

/-- How a value is rendered. -/
structure RenderFlags where
  debug : Bool := false
  variableName : Bool := false
  quoted : Bool := false
deriving DecidableEq, Repr

/-- The flags with these names. -/
def RenderFlags.ofNames (names : List String) : RenderFlags where
  debug := names.contains "debug"
  variableName := names.contains "variable"
  quoted := names.contains "quoted"

/-- Reads and renders the values of one type. Rendering has no answer for values of other types. -/
structure ValueParser where
  parse : World → String → ParseContext → Option Value
  canParse : ParseContext → Bool := fun _ => true
  render : World → Value → RenderFlags → Option String
  renderVariableName : World → Value → Option String :=
    fun world value => render world value { variableName := true }

/-- How values of a kind are persisted. A blank value can be filled from a bag in place; filling says
what the target holds afterwards, also if it fails. -/
structure Codec (α : Type) where
  kind : ValueKind α
  write : α → FieldBag
  read : FieldBag → Except ConversionError α := fun _ => .error (.unsupported kind.key.path)
  fill : α → FieldBag → α × Except ConversionError Unit := fun target bag =>
    match read bag with
    | .ok value => (value, .ok ())
    | .error error => (target, .error error)
  instantiable : Bool := true
  blank : Option α := none
  onMainThread : Bool := false

/-- How values of one type are persisted, for any value. Writing has no answer for values of other
types. -/
structure Serializer where
  type : TypeKey
  write : Value → Option FieldBag
  read : FieldBag → Except ConversionError Value
  fill : Value → FieldBag → Value × Except ConversionError Unit
  instantiable : Bool
  blank : Option Value
  onMainThread : Bool

/-- The codec seen from any value. Reading fills a blank value where one can be made. -/
def Codec.toSerializer {α : Type} (codec : Codec α) : Serializer where
  type := codec.kind.key
  write value := (codec.kind.ofValue? value).map codec.write
  read bag :=
    match if codec.instantiable then codec.blank else none with
    | some blank =>
      match codec.fill blank bag with
      | (filled, .ok ()) => .ok (codec.kind.toValue filled)
      | (_, .error error) => .error error
    | none => (codec.read bag).map codec.kind.toValue
  fill target bag :=
    match codec.kind.ofValue? target with
    | none => (target, .error (.typeMismatch codec.kind.key.path))
    | some held =>
      let (filled, result) := codec.fill held bag
      (codec.kind.toValue filled, result)
  instantiable := codec.instantiable
  blank := codec.blank.map codec.kind.toValue
  onMainThread := codec.onMainThread

/-- Where the expression for a slot that is left out comes from: nowhere, the value that the ambient
event has of this type, or a supplier of the type's own. -/
inductive DefaultSource where
  | none
  | eventValue
  | custom (supply : Option Expression)

/-- The name of a default source. -/
def DefaultSource.name : DefaultSource → String
  | .none => "none"
  | .eventValue => "event"
  | .custom _ => "custom"

/-- The diagnostic text of a default source. -/
def DefaultSource.debugText : DefaultSource → String
  | .none => "None"
  | .eventValue => "EventValue"
  | .custom _ => "Custom(..)"

/-- Why no blank value was made: the serializer says that there is none to be made generically. -/
structure NotInstantiable where
  type : TypeKey

/-- The wording of a refused instantiation. -/
def NotInstantiable.message (refusal : NotInstantiable) : String :=
  "serializer for `" ++ refusal.type.path ++ "` cannot be instantiated generically"

/-- The description of a value type. -/
structure TypeInfo where
  key : TypeKey
  name : String
  plural : String
  displayName : String
  description : Option String := none
  parser : Option ValueParser := none
  serializer : Option Serializer := none
  defaultSource : DefaultSource := .none

namespace TypeInfo

/-- A type with nothing but names, all derived from one. Names are in lower case. -/
def named (key : TypeKey) (name : String) : TypeInfo :=
  let name := Text.lowercase name
  { key, name, plural := name ++ "s", displayName := name }

/-- The type under another plural name. -/
def withPlural (info : TypeInfo) (plural : String) : TypeInfo :=
  { info with plural := Text.lowercase plural }

/-- Whether values of the type may be written out where text is read in this context. -/
def canParse (info : TypeInfo) (context : ParseContext) : Bool :=
  info.parser.any (·.canParse context)

/-- Reads a written-out value. -/
def parse? (info : TypeInfo) (world : World) (text : String) (context : ParseContext) :
    Option Value :=
  match info.parser with
  | none => none
  | some parser => if parser.canParse context then parser.parse world text context else none

/-- Renders a value of the type. -/
def render (info : TypeInfo) (world : World) (value : Value) (flags : RenderFlags) :
    Except ConversionError String :=
  match info.parser with
  | none => .error (.unsupported info.name)
  | some parser =>
    match parser.render world value flags with
    | some text => .ok text
    | none => .error (.typeMismatch info.name)

/-- Renders a value of the type for use within the name of a variable. -/
def renderVariableName (info : TypeInfo) (world : World) (value : Value) :
    Except ConversionError String :=
  match info.parser with
  | none => .error (.unsupported info.name)
  | some parser =>
    match parser.renderVariableName world value with
    | some text => .ok text
    | none => .error (.typeMismatch info.name)

/-- The serializer of the type. -/
def requireSerializer (info : TypeInfo) : Except ConversionError Serializer :=
  match info.serializer with
  | some serializer => .ok serializer
  | none => .error (.notSerializable info.name)

/-- Persists a value of the type. -/
def serialize (info : TypeInfo) (value : Value) : Except ConversionError FieldBag := do
  let serializer ← info.requireSerializer
  match serializer.write value with
  | some bag => .ok bag
  | none => .error (.typeMismatch info.name)

/-- Rebuilds a value from a bag. -/
def deserialize (info : TypeInfo) (bag : FieldBag) : Except ConversionError Value := do
  let serializer ← info.requireSerializer
  serializer.read bag

/-- Overwrites a value of the type from a bag; also tells what the target holds afterwards. -/
def deserializeInto (info : TypeInfo) (target : Value) (bag : FieldBag) :
    Value × Except ConversionError Unit :=
  match info.requireSerializer with
  | .error error => (target, .error error)
  | .ok serializer => serializer.fill target bag

/-- Whether values of the type can be persisted. -/
def isSerializable (info : TypeInfo) : Bool :=
  info.serializer.isSome

/-- Whether a blank value can be made generically. -/
def isInstantiable (info : TypeInfo) : Bool :=
  info.serializer.any (·.instantiable)

/-- Whether bags must be read on the main thread. -/
def readsOnMainThread (info : TypeInfo) : Bool :=
  info.serializer.any (·.onMainThread)

/-- Makes a blank value; asking for one where the serializer rules it out is a mistake of the caller. -/
def instantiate (info : TypeInfo) :
    Except NotInstantiable (Except ConversionError (Option Value)) :=
  match info.requireSerializer with
  | .error error => .ok (.error error)
  | .ok serializer =>
    if serializer.instantiable then .ok (.ok serializer.blank) else .error ⟨serializer.type⟩

/-- The diagnostic text of a type. -/
def debugText (info : TypeInfo) : String :=
  "TypeInfo \x7b name: " ++ Text.quoted info.name ++ ", key: " ++ info.key.debugText
    ++ ", parser: " ++ toString info.parser.isSome
    ++ ", serializer: " ++ toString info.serializer.isSome
    ++ ", default: " ++ info.defaultSource.debugText ++ " \x7d"

end TypeInfo

end ScriptBridge
