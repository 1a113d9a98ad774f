import ScriptBridge.Pattern.Basic
import ScriptBridge.Table
import ScriptBridge.Types.Info
/-!
The registry of value types. No two types share a key, and no name, singular or plural, belongs to
two types. Converters turn values of one type into values of another.
-/

namespace ScriptBridge

/-- The registered types in order, and the converters between types. -/
structure TypeRegistry where
  types : List TypeInfo := []
  converters : Table (TypeKey × TypeKey) Converter := {}

namespace TypeRegistry

/-- Whether the name is the singular or plural name of a registered type. -/
def isTaken (registry : TypeRegistry) (name : String) : Bool :=
  registry.types.any fun info => info.name == name || info.plural == name

/-- The description of the type with this key. -/
def get? (registry : TypeRegistry) (key : TypeKey) : Option TypeInfo :=
  registry.types.find? (·.key = key)

/-- Registers a type. The key is checked first, then the name, then the plural. -/
def register (registry : TypeRegistry) (info : TypeInfo) : Except RegistrationError TypeRegistry :=
  if (registry.get? info.key).isSome then .error (.duplicateType info.key.shortName)
  else if registry.isTaken info.name then .error (.duplicateType info.name)
  else if registry.isTaken info.plural then .error (.duplicateType info.plural)
  else .ok { registry with types := registry.types ++ [info] }

/-- Registers a converter, in place of an earlier one between the same types. Values of other types
do not convert. -/
def addConverter {α β : Type} (registry : TypeRegistry) (source : ValueKind α)
    (target : ValueKind β) (convert : α → Option β) : TypeRegistry :=
  { registry with
    converters := registry.converters.insert (source.key, target.key) fun value =>
      ((source.ofValue? value).bind convert).map target.toValue }

/-- Looks a type up by one of its names, in any case; the flag says that it is the plural. -/
def lookup (registry : TypeRegistry) (name : String) : Option (TypeInfo × Bool) :=
  let name := Text.lowercase name
  registry.types.findSome? fun info =>
    if info.name = name then some (info, false)
    else if info.plural = name then some (info, true)
    else none

/-- What a slot with this type name holds. -/
def slotType (registry : TypeRegistry) : TypeLookup := fun name =>
  (registry.lookup name).map fun (info, plural) => (info.key, plural)

/-- The converter between two types. -/
def converter? (registry : TypeRegistry) (source target : TypeKey) : Option Converter :=
  registry.converters.get? (source, target)

/-- Whether values of the first type can stand where the second is asked for. -/
def converts (registry : TypeRegistry) (source target : TypeKey) : Bool :=
  source == target || (registry.converter? source target).isSome

/-- Converts a value to a type. -/
def convert (registry : TypeRegistry) (value : Value) (target : TypeKey) : Option Value :=
  if value.key = target then some value
  else (registry.converter? value.key target).bind (· value)

/-- The diagnostic text of the registry. -/
def debugText (registry : TypeRegistry) : String :=
  "TypeRegistry \x7b types: [" ++ ", ".intercalate (registry.types.map TypeInfo.debugText)
    ++ "], converters: " ++ toString registry.converters.size ++ " \x7d"

end TypeRegistry

end ScriptBridge
