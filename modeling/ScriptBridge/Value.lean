import ScriptBridge.Decimal.Style
import ScriptBridge.TypeKey
/-!
Script values: what expressions yield and effects consume. Every value has exactly one type key.
-/

namespace ScriptBridge

/-- A location and facing in the world. -/
structure Position where
  x : Float := 0
  y : Float := 0
  z : Float := 0
  yaw : Float32 := 0
  pitch : Float32 := 0
deriving Inhabited

/-- The text of a position with the given number style. -/
def Position.fields (style : Decimal.Style) (p : Position) : String :=
  "x: " ++ style.double p.x ++ ", y: " ++ style.double p.y ++ ", z: " ++ style.double p.z
    ++ ", yaw: " ++ style.single p.yaw ++ ", pitch: " ++ style.single p.pitch

/-- A position as users read it. -/
def Position.toText (p : Position) : String :=
  p.fields .plain

/-- A position as diagnostics show it. -/
def Position.debugText (p : Position) : String :=
  "Position \x7b " ++ p.fields .diagnostic ++ " \x7d"

/-- A reference to an entity of the host: its place in the world. -/
structure EntityRef where
  place : Nat
deriving DecidableEq, Repr, Inhabited

/-- A script value. A `custom` value belongs to a type named by its path and holds a text. -/
inductive Value where
  | number (x : Float)
  | text (content : String)
  | boolean (b : Bool)
  | entity (ref : EntityRef)
  | player (ref : EntityRef)
  | position (p : Position)
  | custom (path : String) (content : String)
deriving Inhabited

/-- The key of the type that a value belongs to. -/
def Value.key : Value → TypeKey
  | .number _ => .number
  | .text _ => .text
  | .boolean _ => .boolean
  | .entity _ => .entity
  | .player _ => .player
  | .position _ => .position
  | .custom path _ => .named path

/-- A type of values as seen from the program: its key, what its values hold, and how to make one. -/
structure ValueKind (α : Type) where
  key : TypeKey
  toValue : α → Value
  ofValue? : Value → Option α

namespace ValueKind

/-- Numbers. -/
def number : ValueKind Float where
  key := .number
  toValue := .number
  ofValue?
    | .number x => some x
    | _ => none

/-- Texts. -/
def text : ValueKind String where
  key := .text
  toValue := .text
  ofValue?
    | .text content => some content
    | _ => none

/-- Truth values. -/
def boolean : ValueKind Bool where
  key := .boolean
  toValue := .boolean
  ofValue?
    | .boolean b => some b
    | _ => none

/-- Entities. -/
def entity : ValueKind EntityRef where
  key := .entity
  toValue := .entity
  ofValue?
    | .entity ref => some ref
    | _ => none

/-- Players. -/
def player : ValueKind EntityRef where
  key := .player
  toValue := .player
  ofValue?
    | .player ref => some ref
    | _ => none

/-- Positions. -/
def position : ValueKind Position where
  key := .position
  toValue := .position
  ofValue?
    | .position p => some p
    | _ => none

/-- The values of a type named by its path. -/
def named (path : String) : ValueKind String where
  key := .named path
  toValue := .custom path
  ofValue?
    | .custom other content => if other = path then some content else none
    | _ => none

/-- The values of the type with this key, as they are. -/
def whole (key : TypeKey) : ValueKind Value where
  key
  toValue := id
  ofValue? value := if value.key = key then some value else none

end ValueKind

end ScriptBridge
