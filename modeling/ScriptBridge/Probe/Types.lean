import ScriptBridge.Probe.Textual
/-!
Probes of value types: parsers, serializers, defaults and converters for textual types.
-/

namespace ScriptBridge.Probe

/-- The name of a context as values carry it. -/
def contextName : ParseContext → String
  | .script => "Script"
  | .command => "Command"
  | .parse => "Parse"
  | .config => "Config"
  | .event => "Event"

/-- How a probed type reads its values: behind a fixed lead, perhaps only certain words and only in
certain contexts; or anything, and then the value tells the context. -/
inductive Reading where
  | words (lead : String) (known : Option (List String)) (contexts : Option (List ParseContext))
  | anything

/-- The number that stands for a combination of flags. -/
def flagBits (flags : RenderFlags) : Nat :=
  (if flags.debug then 1 else 0) + (if flags.variableName then 2 else 0)
    + (if flags.quoted then 4 else 0)

/-- What is left of a text behind its lead. -/
def behind? (lead text : String) : Option String :=
  if lead.toList.isPrefixOf text.toList then
    some (String.ofList (text.toList.drop lead.length))
  else none

/-- The parser that reads in this way. -/
def Reading.parser (type : Textual) : Reading → ValueParser
  | .words lead known contexts =>
    { parse := fun _ text _ =>
        match behind? lead text with
        | none => none
        | some rest =>
          if known.all (·.contains rest) then type.make? rest else none
      canParse := fun context => contexts.all (·.contains context)
      render := fun _ value flags =>
        (type.textOf? value).map fun text => lead ++ text ++ "|" ++ toString (flagBits flags) }
  | .anything =>
    { parse := fun _ text context => type.make? (contextName context ++ "/" ++ text)
      render := fun _ value _ => type.textOf? value }

/-- How a probed type is persisted: `plain` reads back what is written, `blank` also makes blank values,
`inPlace` only adds to a target, `writeOnly` reads nothing, and `locked` makes no blank values and reads
on the main thread. -/
inductive Persistence where
  | plain
  | blank
  | inPlace
  | writeOnly
  | locked
deriving DecidableEq, Repr

/-- The value that a text from a bag makes. -/
def remake (type : Textual) (text : String) : Except ConversionError Value :=
  match type.make? text with
  | some value => .ok value
  | none => .error (.typeMismatch "text")

/-- Reads the text of a value and makes the value. -/
def readText (type : Textual) (bag : FieldBag) : Except ConversionError Value := do
  let text ← bag.get .text "value"
  remake type text

/-- Adds the text of the value in a bag to that of a target. -/
def appendText (type : Textual) (target : Value) (bag : FieldBag) :
    Value × Except ConversionError Unit :=
  let textOf (value : Value) : String := (type.textOf? value).getD ""
  match (do remake type (textOf target ++ textOf (← readText type bag))) with
  | .ok value => (value, .ok ())
  | .error error => (target, .error error)

/-- Writes the text of a value. -/
def writeText (type : Textual) (value : Value) : FieldBag :=
  FieldBag.put {} .text "value" ((type.textOf? value).getD "")

/-- The codec that persists in this way. -/
def Persistence.codec (type : Textual) : Persistence → Codec Value
  | .plain => { kind := type.kind, write := writeText type, read := readText type }
  | .blank =>
    { kind := type.kind, write := writeText type, read := readText type, blank := some type.blank }
  | .inPlace =>
    { kind := type.kind, write := writeText type, fill := appendText type, blank := some type.blank }
  | .writeOnly => { kind := type.kind, write := writeText type }
  | .locked =>
    { kind := type.kind, write := writeText type, read := readText type, blank := some type.blank
      instantiable := false, onMainThread := true }

/-- What stands in for a slot of a probed type that is left out. -/
inductive Fallback where
  | none
  | eventValue
  | nothing
  | literal (text : String)
deriving DecidableEq, Repr

/-- The default that this comes to. -/
def Fallback.source (type : Textual) : Fallback → DefaultSource
  | .none => .none
  | .eventValue => .eventValue
  | .nothing => .custom Option.none
  | .literal text => .custom ((type.make? text).map (.literal · text))

/-- A probed value type. -/
structure TypeProbe where
  type : Textual
  name : String
  plural : Option String := none
  displayName : Option String := none
  description : Option String := none
  reading : Option Reading := none
  persistence : Option Persistence := none
  fallback : Fallback := .none

/-- The description of the type. -/
def TypeProbe.info (probe : TypeProbe) : TypeInfo :=
  let named := TypeInfo.named probe.type.key probe.name
  let info :=
    match probe.plural with
    | none => named
    | some plural => named.withPlural plural
  { info with
    displayName := probe.displayName.getD info.displayName
    description := probe.description
    parser := probe.reading.map (·.parser probe.type)
    serializer := probe.persistence.map fun persistence => (persistence.codec probe.type).toSerializer
    defaultSource := probe.fallback.source probe.type }

/-- A probed converter: puts a text in front, and declines one certain text. -/
structure ConverterProbe where
  source : Textual
  target : Textual
  added : String := ""
  rejected : Option String := none

/-- Converts one value. -/
def ConverterProbe.convert (probe : ConverterProbe) (value : Value) : Option Value :=
  (probe.source.textOf? value).bind fun text =>
    if probe.rejected = some text then none else probe.target.make? (probe.added ++ text)

end ScriptBridge.Probe
