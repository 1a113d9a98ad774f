/-!
Keys of types. Values, events, interfaces and host events are all told apart by the key of their
type. The types that the library itself brings have keys of their own; every other type is named by
its path.
-/

namespace ScriptBridge

/-- The identity of a type. -/
inductive TypeKey where
  | number
  | text
  | boolean
  | entity
  | player
  | position
  | playerEvents
  | playerJoin
  | playerQuit
  | playerChat
  | scriptLoad
  | playerSpawned
  | playerDisconnected
  | playerSpoke
  | named (path : String)
deriving DecidableEq, Repr, Inhabited

namespace TypeKey

/-- The full name of the type, as it appears in error messages. -/
def path : TypeKey → String
  | .number => "f64"
  | .text => "alloc::string::String"
  | .boolean => "bool"
  | .entity => "spindle::host::Entity"
  | .player => "spindle::host::Player"
  | .position => "spindle::host::Position"
  | .playerEvents => "spindle::builtins::events::PlayerEvents"
  | .playerJoin => "spindle::builtins::events::PlayerJoin"
  | .playerQuit => "spindle::builtins::events::PlayerQuit"
  | .playerChat => "spindle::builtins::events::PlayerChat"
  | .scriptLoad => "spindle::builtins::events::ScriptLoad"
  | .playerSpawned => "spindle::host::PlayerSpawnEvent"
  | .playerDisconnected => "spindle::host::PlayerDisconnectEvent"
  | .playerSpoke => "spindle::host::PlayerChatEvent"
  | .named path => path

/-- The characters in front of the first double colon. -/
def beforeColons : List Char → List Char
  | ':' :: ':' :: _ => []
  | c :: rest => c :: beforeColons rest
  | [] => []

/-- A full name without its arguments and without the modules in front of it. -/
def shorten (path : String) : String :=
  let head := path.toList.takeWhile (· ≠ '<')
  String.ofList (beforeColons head.reverse).reverse

/-- The name of the type without the modules in front of it. -/
def shortName (key : TypeKey) : String :=
  shorten key.path

/-- The keys of the types that the library brings. -/
def own : List TypeKey :=
  [.number, .text, .boolean, .entity, .player, .position, .playerEvents, .playerJoin, .playerQuit,
    .playerChat, .scriptLoad, .playerSpawned, .playerDisconnected, .playerSpoke]

/-- The diagnostic text of a key. -/
def debugText (key : TypeKey) : String :=
  "TypeKey(" ++ key.path ++ ")"

end TypeKey

end ScriptBridge
