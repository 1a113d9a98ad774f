import ScriptBridge.Expression
import ScriptBridge.Text.Case
/-!
Matches: what the structural match of a pattern hands to the entry that the pattern belongs to.
-/

namespace ScriptBridge

/-- Where a piece of text is read. Types decide by it whether their values may be written out. -/
inductive ParseContext where
  | script
  | command
  | parse
  | config
  | event
deriving DecidableEq, Repr, Inhabited

namespace ParseContext

/-- All contexts. -/
def all : List ParseContext := [.script, .command, .parse, .config, .event]

/-- The name of a context. -/
def name : ParseContext → String
  | .script => "script"
  | .command => "command"
  | .parse => "parse"
  | .config => "config"
  | .event => "event"

/-- The context with a name. -/
def ofName? (name : String) : Option ParseContext :=
  all.find? (·.name = name)

end ParseContext

/-- Where a piece of text is read, and for which event, if that is known. -/
structure ParseOptions where
  context : ParseContext := .script
  event : Option TypeKey := none
deriving DecidableEq, Repr

/-- The outcome of matching a text against one pattern of an entry: the number of the pattern, what
its slots are bound to, the tags of the branches taken, and the text with its circumstances. -/
structure Match where
  pattern : Nat
  slots : List (Option Expression)
  tags : List String
  text : String
  options : ParseOptions

namespace Match

/-- What a slot is bound to. -/
def slot? (found : Match) (index : Nat) : Option Expression :=
  found.slots[index]?.join

/-- Whether a branch with this tag was taken, up to the case of ASCII letters. -/
def hasTag (found : Match) (tag : String) : Bool :=
  found.tags.any (Text.sameIgnoringCase · tag)

end Match

end ScriptBridge
