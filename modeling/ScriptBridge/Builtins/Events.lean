import ScriptBridge.EventValues
/-!
The built-in events: a player joins, quits or chats, and scripts have been loaded; and what values
they have.
-/

namespace ScriptBridge.Builtins

/-- A registered event: how it is described, its key, and what it is built from, if the host emits it. -/
structure EventRegistration where
  spec : WrapperSpec
  wrapper : TypeKey
  source : Option WrapperSource

/-- The built-in events in order. -/
def events : List EventRegistration :=
  [ { spec :=
        { name := "player join"
          patterns := ["player (join|spawn)"]
          bases := [.playerEvents]
          description := some "Called when a player enters the world." }
      wrapper := .playerJoin
      source := some
        { native := .playerSpawned
          wrap
            | .playerSpawned player position => some (.playerJoin player position)
            | _ => none } },
    { spec :=
        { name := "player quit"
          patterns := ["player (quit|leave|disconnect)"]
          bases := [.playerEvents]
          description := some "Called when a player leaves." }
      wrapper := .playerQuit
      source := some
        { native := .playerDisconnected
          wrap
            | .playerDisconnected player reason => some (.playerQuit player reason)
            | _ => none } },
    { spec :=
        { name := "player chat"
          patterns := ["[player] chat"]
          bases := [.playerEvents]
          description := some "Called when a player sends a chat message. Cancellable." }
      wrapper := .playerChat
      source := some
        { native := .playerSpoke
          wrap
            | .playerSpoke player message => some (.playerChat player message)
            | _ => none } },
    { spec :=
        { name := "script load"
          patterns := ["[script] (load|init|enable)"]
          description := some "Called once after every script is loaded." }
      wrapper := .scriptLoad
      source := none } ]

/-- Registers events in order. -/
def registerEvents :
    WrapperRegistry → List EventRegistration → Except RegistrationError WrapperRegistry
  | registry, [] => .ok registry
  | registry, event :: rest =>
    match registry.add event.spec event.wrapper event.source with
    | .error error => .error error
    | .ok registry => registerEvents registry rest

/-- Registers the built-in events. -/
def addEvents (registry : WrapperRegistry) : Except RegistrationError WrapperRegistry :=
  registerEvents registry events

/-- The player that an event is about. -/
def eventPlayer? (event : Event) : Option EntityRef :=
  match event.occurrence with
  | .playerJoin player _ => some player
  | .playerQuit player _ => some player
  | .playerChat player _ => some player
  | _ => none

/-- Where an event took place. -/
def eventPosition? (world : World) (event : Event) : Option Position :=
  match event.occurrence with
  | .playerJoin _ position => some position
  | .playerQuit player _ => some (world.position player)
  | .playerChat player _ => some (world.position player)
  | _ => none

/-- What was said in a chat event. -/
def chatMessage? (event : Event) : Option String :=
  match event.occurrence with
  | .playerChat _ message => some message
  | _ => none

/-- The player of an event as a value. -/
def playerGetter : Getter := fun _ event => (eventPlayer? event).map .player

/-- The player of an event as an entity. -/
def entityGetter : Getter := fun _ event => (eventPlayer? event).map .entity

/-- The place of an event. -/
def positionGetter : Getter := fun world event => (eventPosition? world event).map .position

/-- The message of a chat event. -/
def messageGetter : Getter := fun _ event => (chatMessage? event).map .text

/-- The values that the built-in events have, by event and value type. -/
def getters : List (TypeKey × TypeKey × Getter) :=
  [ (.playerJoin, .player, playerGetter),
    (.playerJoin, .entity, entityGetter),
    (.playerJoin, .position, positionGetter),
    (.playerQuit, .player, playerGetter),
    (.playerQuit, .entity, entityGetter),
    (.playerQuit, .position, positionGetter),
    (.playerChat, .player, playerGetter),
    (.playerChat, .entity, entityGetter),
    (.playerChat, .position, positionGetter),
    (.playerChat, .text, messageGetter) ]

/-- Registers the values of the built-in events. Each getter reads only events of its own type, also
where another event has that type among its ancestors. -/
def addGetters (table : GetterTable) : GetterTable :=
  getters.foldl
    (fun table (event, type, getter) => table.insert (event, type) (Getter.only event getter)) table

end ScriptBridge.Builtins
