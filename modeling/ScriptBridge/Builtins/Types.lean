import ScriptBridge.Decimal.Reader
import ScriptBridge.Types.Registry
/-!
The built-in value types: numbers, strings, booleans, entities, players and positions.
-/

namespace ScriptBridge.Builtins

/-- Numbers are written in decimals and must be finite. -/
def numberParser : ValueParser where
  parse _ text _ := ((Decimal.readDouble text).filter (·.isFinite)).map .number
  render _ value _ := (ValueKind.number.ofValue? value).map Decimal.Style.plain.double

/-- A text between double quotes, with the quotes in it doubled. -/
def quoteText (text : String) : String :=
  String.ofList
    ('"' :: text.toList.flatMap (fun c => if c = '"' then ['"', '"'] else [c]) ++ ['"'])

/-- Bare text is a string only where no quoting exists. -/
def stringParser : ValueParser where
  parse _ text _ := some (.text text)
  canParse
    | .config => true
    | .parse => true
    | _ => false
  render _ value flags :=
    (ValueKind.text.ofValue? value).map fun text => if flags.quoted then quoteText text else text

/-- The truth value that a word stands for, up to the case of ASCII letters. -/
def readBoolean (text : String) : Option Bool :=
  let word := String.ofList (text.toList.map Char.toLower)
  if word ∈ ["true", "yes", "on"] then some true
  else if word ∈ ["false", "no", "off"] then some false
  else none

/-- Truth values are written as words. -/
def booleanParser : ValueParser where
  parse _ text _ := (readBoolean text).map .boolean
  render _ value _ := (ValueKind.boolean.ofValue? value).map toString

/-- Entities are written by identifier or, if they are players, by name. They are in commands and
where text is read as a value, and in scripts only if the configuration says so. -/
def entityParser (inScripts : Bool) : ValueParser where
  parse world text _ :=
    match Uuid.parse? text with
    | some id => (world.entity? id).map .entity
    | none => (world.playerNamed? text).map .entity
  canParse
    | .command => true
    | .parse => true
    | .script => inScripts
    | _ => false
  render world value _ := (ValueKind.entity.ofValue? value).map world.name
  renderVariableName world value :=
    (ValueKind.entity.ofValue? value).map fun ref => "entity:" ++ (world.id ref).toText

/-- Players are written by identifier or name, except in configurations and event headers. -/
def playerParser : ValueParser where
  parse world text _ :=
    match Uuid.parse? text with
    | some id => (world.player? id).map .player
    | none => (world.playerNamed? text).map .player
  canParse
    | .config => false
    | .event => false
    | _ => true
  render world value _ := (ValueKind.player.ofValue? value).map world.name
  renderVariableName world value :=
    (ValueKind.player.ofValue? value).map fun ref => (world.id ref).toText

/-- Positions have no written form. -/
def positionParser : ValueParser where
  parse _ _ _ := none
  canParse _ := false
  render _ value flags :=
    (ValueKind.position.ofValue? value).map fun p => if flags.debug then p.debugText else p.toText
  renderVariableName _ value :=
    (ValueKind.position.ofValue? value).map fun p =>
      let plain := Decimal.Style.plain.double
      plain p.x ++ ":" ++ plain p.y ++ ":" ++ plain p.z

/-- Persists a primitive as the field `value`. -/
def primitiveCodec {α : Type} (kind : ValueKind α) (primitive : Primitive α) (blank : α) : Codec α where
  kind
  write value := FieldBag.put {} primitive "value" value
  read bag := bag.get primitive "value"
  blank := some blank

/-- The position whose fields a bag holds. -/
def readPosition (bag : FieldBag) : Except ConversionError Position := do
  let x ← bag.get .double "x"
  let y ← bag.get .double "y"
  let z ← bag.get .double "z"
  let yaw ← bag.get .single "yaw"
  let pitch ← bag.get .single "pitch"
  pure { x, y, z, yaw, pitch }

/-- The fields of a position. -/
def writePosition (p : Position) : FieldBag :=
  ((((FieldBag.put {} .double "x" p.x).put .double "y" p.y).put .double "z" p.z).put
    .single "yaw" p.yaw).put .single "pitch" p.pitch

/-- Positions are persisted by their five numbers. They belong to a world that may still be loading,
so none is made blank, and bags are read on the main thread. -/
def positionCodec : Codec Position where
  kind := .position
  write := writePosition
  read := readPosition
  -- everything is read before the target is touched
  fill target bag :=
    match readPosition bag with
    | .ok position => (position, .ok ())
    | .error error => (target, .error error)
  instantiable := false
  onMainThread := true

/-- The built-in value types in order. -/
def valueTypes (entityNamesInScripts : Bool) : List TypeInfo :=
  [ { TypeInfo.named .number "number" with
      displayName := "Number"
      description := some "A decimal number such as `3` or `-1.5`."
      parser := some numberParser
      serializer := some (primitiveCodec .number .double 0).toSerializer },
    { TypeInfo.named .text "string" with
      displayName := "Text"
      description := some "Text, written in double quotes inside scripts."
      parser := some stringParser
      serializer := some (primitiveCodec .text .text "").toSerializer },
    { TypeInfo.named .boolean "boolean" with
      displayName := "Boolean"
      parser := some booleanParser
      serializer := some (primitiveCodec .boolean .boolean false).toSerializer },
    { (TypeInfo.named .entity "entity").withPlural "entities" with
      displayName := "Entity"
      description := some "Any entity; in commands, a UUID or an online player's name."
      parser := some (entityParser entityNamesInScripts)
      defaultSource := .eventValue },
    { TypeInfo.named .player "player" with
      displayName := "Player"
      description := some "A connected player, by name or UUID."
      parser := some playerParser
      defaultSource := .eventValue },
    { TypeInfo.named .position "position" with
      displayName := "Position"
      description := some "A location with facing; built with `position(x, y, z)`."
      parser := some positionParser
      serializer := some positionCodec.toSerializer
      defaultSource := .eventValue } ]

/-- Registers value types in order. -/
def registerTypes : TypeRegistry → List TypeInfo → Except RegistrationError TypeRegistry
  | registry, [] => .ok registry
  | registry, info :: rest =>
    match registry.register info with
    | .error error => .error error
    | .ok registry => registerTypes registry rest

/-- Registers the built-in value types, and that a player is an entity. -/
def addTypes (registry : TypeRegistry) (entityNamesInScripts : Bool) :
    Except RegistrationError TypeRegistry :=
  (registerTypes registry (valueTypes entityNamesInScripts)).map fun registry =>
    registry.addConverter .player .entity some

end ScriptBridge.Builtins
