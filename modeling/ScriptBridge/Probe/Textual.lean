import ScriptBridge.Decimal.Reader
import ScriptBridge.Types.Registry
/-!
Textual types: value types whose values are made from texts and give them back. Probes use only these.
-/

namespace ScriptBridge

/-- The bare text of a value. -/
def World.textOf (world : World) : Value → String
  | .number x => Decimal.Style.plain.double x
  | .text content => content
  | .boolean b => toString b
  | .entity ref => world.name ref
  | .player ref => world.name ref
  | .position p => p.toText
  | .custom _ content => content

namespace Probe

/-- A type whose values are texts, or are written as texts. -/
inductive Textual where
  | number
  | text
  | boolean
  | custom (path : String)
deriving DecidableEq, Repr

namespace Textual

/-- The key of the type. -/
def key : Textual → TypeKey
  | .number => .number
  | .text => .text
  | .boolean => .boolean
  | .custom path => .named path

/-- The textual type with a key, unless the key is that of a type whose values are not texts. -/
def ofKey? : TypeKey → Option Textual
  | .number => some .number
  | .text => some .text
  | .boolean => some .boolean
  | .named path => some (.custom path)
  | _ => none

/-- Makes a value from a text. -/
def make? : Textual → String → Option Value
  | .number, content => (Decimal.readDouble content).map .number
  | .text, content => some (.text content)
  | .boolean, content =>
    if content = "true" then some (.boolean true)
    else if content = "false" then some (.boolean false)
    else none
  | .custom path, content => some (.custom path content)

/-- The text of a value of the type. -/
def textOf? : Textual → Value → Option String
  | .number, .number x => some (Decimal.Style.plain.double x)
  | .text, .text content => some content
  | .boolean, .boolean b => some (toString b)
  | .custom path, .custom other content => if other = path then some content else none
  | _, _ => none

/-- The value that a blank target holds. -/
def blank : Textual → Value
  | .number => .number 0
  | .text => .text ""
  | .boolean => .boolean false
  | .custom path => .custom path ""

/-- The values of the type. -/
def kind (type : Textual) : ValueKind Value :=
  .whole type.key

end Textual

end Probe

end ScriptBridge
