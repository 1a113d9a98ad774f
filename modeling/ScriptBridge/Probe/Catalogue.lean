import ScriptBridge.Probe.Events
/-!
Catalogues: the types that probes are about, each known by a short name and living in a common place.
-/

namespace ScriptBridge.Probe

/-- The types of a set of probes: textual value types, native events, wrappers around them, interfaces,
and interfaces that are known as objects. Their full names begin with `home`. -/
structure Catalogue where
  home : String
  values : List String := []
  natives : List String := []
  wrappers : List EventProbe := []
  interfaces : List String := []
  objects : List String := []

namespace Catalogue

/-- The full name of a type that lives in the catalogue's place. -/
def pathOf (catalogue : Catalogue) (name : String) : String :=
  catalogue.home ++ "::" ++ name

/-- The wrapper with a short name. -/
def wrapper? (catalogue : Catalogue) (name : String) : Option EventProbe :=
  catalogue.wrappers.find? (·.type.path = catalogue.pathOf name)

/-- Where events come from: those of the catalogue, and those that the library brings. -/
def origins (catalogue : Catalogue) : List EventOrigin :=
  catalogue.wrappers.map EventProbe.origin ++ builtinOrigins

/-- Where the events with a short name come from. -/
def origin? (catalogue : Catalogue) (name : String) : Option EventOrigin :=
  catalogue.origins.find? (·.key.shortName = name)

/-- The getter that gives an answer for events under a key. If these are built from native ones, it reads
no other events that have the key among their ancestors. -/
def getter (catalogue : Catalogue) (key : TypeKey) (type : Textual) (answer : Answer) : Getter :=
  if catalogue.origins.any fun origin => origin.key = key && origin.source.isSome then
    Getter.only key (answer.getter type)
  else answer.getter type

/-- The full name of the native event with a short name. -/
def native? (catalogue : Catalogue) (name : String) : Option String :=
  if name ∈ catalogue.natives then some (catalogue.pathOf name) else none

/-- The textual type with a short name: one of the catalogue, or one that the library brings. -/
def textual? (catalogue : Catalogue) (name : String) : Option Textual :=
  if name ∈ catalogue.values then some (.custom (catalogue.pathOf name))
  else [Textual.number, .text, .boolean].find? (·.key.shortName = name)

/-- The key of the type with a short name: one of the catalogue, or one that the library brings. -/
def key? (catalogue : Catalogue) (name : String) : Option TypeKey :=
  if name ∈ catalogue.values ++ catalogue.natives ++ catalogue.interfaces
      ∨ (catalogue.wrapper? name).isSome then
    some (.named (catalogue.pathOf name))
  else if name ∈ catalogue.objects then some (.named ("dyn " ++ catalogue.pathOf name))
  else TypeKey.own.find? (·.shortName = name)

/-- The key of the value type with a short name. -/
def valueKey? (catalogue : Catalogue) (name : String) : Option TypeKey :=
  match catalogue.textual? name with
  | some textual => some textual.key
  | none => [TypeKey.entity, .player, .position].find? (·.shortName = name)

end Catalogue

end ScriptBridge.Probe
