import ScriptBridge.Uuid
import ScriptBridge.Value
/-!
The host's world: the live entities and how they are found. References to entities stay valid, since
entities are only ever added.
-/

namespace ScriptBridge

/-- A live entity. One that `refuses` stays where it is when asked to move. -/
structure Body where
  id : Uuid
  name : String
  isPlayer : Bool
  position : Position := {}
  refuses : Bool := false

/-- How a host finds its entities among the bodies of its world. -/
structure Directory where
  byId : List Body → Uuid → Option EntityRef
  byName : List Body → String → Option EntityRef

/-- Finds the first entity with the identifier, and the first player whose name is the same up to the
case of ASCII letters. -/
def Directory.standard : Directory where
  byId bodies id := (bodies.findIdx? (·.id = id)).map EntityRef.mk
  byName bodies name :=
    (bodies.findIdx? fun body =>
      body.isPlayer && body.name.toList.map Char.toLower == name.toList.map Char.toLower).map
        EntityRef.mk

/-- The live entities, and how the host finds them. -/
structure World where
  bodies : List Body
  directory : Directory := .standard

namespace World

/-- The entity behind a reference. -/
def body? (world : World) (ref : EntityRef) : Option Body :=
  world.bodies[ref.place]?

/-- The name of an entity. -/
def name (world : World) (ref : EntityRef) : String :=
  ((world.body? ref).map Body.name).getD ""

/-- The identifier of an entity. -/
def id (world : World) (ref : EntityRef) : Uuid :=
  ((world.body? ref).map Body.id).getD ⟨0⟩

/-- Where an entity is. -/
def position (world : World) (ref : EntityRef) : Position :=
  ((world.body? ref).map Body.position).getD {}

/-- Whether an entity is a connected player. -/
def isPlayer (world : World) (ref : EntityRef) : Bool :=
  ((world.body? ref).map Body.isPlayer).getD false

/-- Whether the host would refuse to move an entity. -/
def refuses (world : World) (ref : EntityRef) : Bool :=
  ((world.body? ref).map Body.refuses).getD true

/-- Any entity by identifier. -/
def entity? (world : World) (id : Uuid) : Option EntityRef :=
  world.directory.byId world.bodies id

/-- A player by identifier. -/
def player? (world : World) (id : Uuid) : Option EntityRef :=
  (world.entity? id).filter world.isPlayer

/-- A player by name. -/
def playerNamed? (world : World) (name : String) : Option EntityRef :=
  (world.directory.byName world.bodies name).filter world.isPlayer

/-- The first entity with exactly this name. -/
def entityCalled? (world : World) (name : String) : Option EntityRef :=
  (world.bodies.findIdx? (·.name = name)).map EntityRef.mk

/-- The first entity with exactly this name, if it is a player. -/
def playerCalled? (world : World) (name : String) : Option EntityRef :=
  (world.entityCalled? name).filter world.isPlayer

/-- The world with one more entity. -/
def add (world : World) (body : Body) : World :=
  { world with bodies := world.bodies ++ [body] }

/-- Asks the host to move an entity; the answer says whether it accepted. -/
def teleport (world : World) (ref : EntityRef) (destination : Position) : World × Bool :=
  if world.refuses ref then (world, false)
  else
    ({ world with bodies := world.bodies.modify ref.place fun body => { body with position := destination } },
      true)

/-- Whether two references stand for the same entity: identifiers are compared, not places. -/
def same (world : World) (a b : EntityRef) : Bool :=
  world.id a == world.id b

/-- Whether two references stand for the same player, or neither stands for a player. -/
def samePlayer (world : World) (a b : EntityRef) : Bool :=
  if world.isPlayer a && world.isPlayer b then world.same a b
  else !world.isPlayer a && !world.isPlayer b

end World

end ScriptBridge
