import ScriptBridge.Builtins.Events
import ScriptBridge.Grammar
/-!
The built-in expressions: positions by their coordinates, the positions of entities, and the message
of a chat event.
-/

namespace ScriptBridge.Builtins

/-- An angle, zero if it is not given. -/
def angle (world : World) (event : Event) : Option Expression → Except EvalError Float32
  | none => .ok 0
  | some expression => (expression.require .number world event).map Float.toFloat32

/-- The position with these coordinates and angles. -/
def positionLiteral (x y z : Expression) (yaw pitch : Option Expression) : Expression :=
  .node
    { returnType := .position
      isSingle := true
      description := "position(" ++ x.describe ++ ", " ++ y.describe ++ ", " ++ z.describe ++ ")"
      evaluate := fun world event => do
        let x ← x.require .number world event
        let y ← y.require .number world event
        let z ← z.require .number world event
        let yaw ← angle world event yaw
        let pitch ← angle world event pitch
        pure [.position { x, y, z, yaw, pitch }] }

/-- The positions of entities. -/
def positionOf (entities : Expression) : Expression :=
  .node
    { returnType := .position
      isSingle := entities.isSingle
      description := "the position of " ++ entities.describe
      evaluate := fun world event =>
        (entities.all .entity world event).map fun refs =>
          refs.map fun ref => .position (world.position ref) }

/-- The message of a chat event. -/
def chatMessage : Expression :=
  .node
    { returnType := .text
      isSingle := true
      description := "the message"
      evaluate := fun _ event => .ok ((chatMessage? event).map Value.text).toList }

/-- Makes a position of its coordinates. -/
def positionLiteralFactory (found : Match) : Option Expression := do
  let x ← found.slot? 0
  let y ← found.slot? 1
  let z ← found.slot? 2
  pure (positionLiteral x y z (found.slot? 3) (found.slot? 4))

/-- Makes the expression for the positions of entities. -/
def positionOfFactory (found : Match) : Option Expression :=
  (found.slot? 0).map positionOf

/-- Makes the expression for the message, in chat events only. -/
def chatMessageFactory (found : Match) : Option Expression :=
  if found.options.event = some .playerChat then some chatMessage else none

/-- Registers the built-in expressions. -/
def addExpressions (grammar : Grammar) : Except RegistrationError Grammar := do
  let grammar ← grammar.addExpression "PositionLiteral"
    ["position\\(%number%, %number%, %number%[, yaw=%number%][, pitch=%number%]\\)"]
    .position positionLiteralFactory
  let grammar ← grammar.addExpression "PositionOf" ["[the] position of %entities%"]
    .position positionOfFactory
  grammar.addExpression "ChatMessage" ["[the] [chat] message"] .text chatMessageFactory

end ScriptBridge.Builtins
