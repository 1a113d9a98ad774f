import ScriptBridge.Event
import ScriptBridge.Pattern.Compile
import ScriptBridge.Wrapper.Lineage
/-!
The registry of wrappers: which script event wraps which native event, how scripts call it, and what
its ancestors are. An event without a native counterpart is only declared.
-/

namespace ScriptBridge

/-- Wraps a native event, if that is of the right type: what the script event around it is about. -/
abbrev Wrapping := NativeEvent → Option Occurrence

/-- Builds a script event around a native one, if that is of the right type. -/
abbrev Constructor := NativeEvent → Option Event

/-- What a wrapper is built from: native events under this key, by this wrapping. -/
structure WrapperSource where
  native : TypeKey
  wrap : Wrapping

/-- The constructor of a wrapper. Every event that it builds has a flag of its own, still clear. -/
def WrapperSource.construct (source : WrapperSource) : Constructor := fun native =>
  (source.wrap native).map fun occurrence => { occurrence }

/-- How a wrapper is described when it is registered. -/
structure WrapperSpec where
  name : String
  patterns : List String := []
  bases : List TypeKey := []
  description : Option String := none

/-- A registered wrapper; it has no source if it was only declared. -/
structure WrapperEntry where
  name : String
  wrapper : TypeKey
  source : Option WrapperSource
  patterns : List Pattern
  bases : List TypeKey
  description : Option String

/-- The key of the native event that an entry wraps. -/
def WrapperEntry.native? (entry : WrapperEntry) : Option TypeKey :=
  entry.source.map WrapperSource.native

/-- The diagnostic text of an entry. -/
def WrapperEntry.debugText (entry : WrapperEntry) : String :=
  "WrapperEntry \x7b name: " ++ Text.quoted entry.name ++ ", wrapper: " ++ entry.wrapper.debugText
    ++ ", native: "
    ++ (match entry.native? with
        | none => "None"
        | some key => "Some(" ++ key.debugText ++ ")")
    ++ ", bridged: " ++ toString entry.source.isSome ++ " \x7d"

/-- The registered wrappers in order, and the graph of interfaces. -/
structure WrapperRegistry where
  entries : List WrapperEntry := []
  interfaces : InterfaceGraph := {}

namespace WrapperRegistry

/-- The entry of a wrapper. -/
def get? (registry : WrapperRegistry) (wrapper : TypeKey) : Option WrapperEntry :=
  registry.entries.find? (·.wrapper = wrapper)

/-- Adds an entry, unless the wrapper has one already. -/
def add (registry : WrapperRegistry) (spec : WrapperSpec) (wrapper : TypeKey)
    (source : Option WrapperSource) : Except RegistrationError WrapperRegistry :=
  match registry.get? wrapper with
  | some existing => .error (.duplicateConstructor wrapper existing.native?)
  | none =>
    match compilePatterns spec.patterns with
    | .error error => .error error
    | .ok patterns =>
      let entry : WrapperEntry :=
        { name := spec.name, wrapper, source, patterns, bases := spec.bases
          description := spec.description }
      .ok { registry with entries := registry.entries ++ [entry] }

/-- Registers a wrapper for native events under a key; it must have a constructor. -/
def register (registry : WrapperRegistry) (spec : WrapperSpec) (wrapper native : TypeKey)
    (wrap? : Option Wrapping) : Except RegistrationError WrapperRegistry :=
  match wrap? with
  | none => .error (.missingConstructor wrapper)
  | some wrap => registry.add spec wrapper (some ⟨native, wrap⟩)

/-- Declares a script event without a native counterpart. -/
def declare (registry : WrapperRegistry) (spec : WrapperSpec) (wrapper : TypeKey) :
    Except RegistrationError WrapperRegistry :=
  registry.add spec wrapper none

/-- Declares an interface with parents. -/
def addInterface (registry : WrapperRegistry) (key : TypeKey) (parents : List TypeKey) :
    WrapperRegistry :=
  { registry with interfaces := registry.interfaces.declare key parents }

/-- The lineage of an event type; one that is not registered has only itself. -/
def lineage (registry : WrapperRegistry) (key : TypeKey) : List TypeKey :=
  match registry.get? key with
  | none => [key]
  | some entry => registry.interfaces.lineage entry.wrapper entry.bases

/-- Resolves the patterns of entries in order. -/
def resolveEntries (lookup : TypeLookup) :
    List WrapperEntry → Except RegistrationError (List WrapperEntry)
  | [] => .ok []
  | entry :: rest => do
    let patterns ← resolvePatterns lookup entry.patterns
    let rest ← resolveEntries lookup rest
    pure ({ entry with patterns } :: rest)

/-- Resolves the slots of every event pattern. -/
def resolve (lookup : TypeLookup) (registry : WrapperRegistry) :
    Except RegistrationError WrapperRegistry :=
  (resolveEntries lookup registry.entries).map fun entries => { registry with entries }

/-- The diagnostic text of the registry. -/
def debugText (registry : WrapperRegistry) : String :=
  "[" ++ ", ".intercalate (registry.entries.map WrapperEntry.debugText) ++ "]"

end WrapperRegistry

end ScriptBridge
