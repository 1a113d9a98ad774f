import ScriptBridge.Parsing.ListItems
import ScriptBridge.Parsing.Matcher
import ScriptBridge.Registries
import ScriptBridge.Text.Basic
/-!
Reading the slots of patterns. A session is a window of tokens with everything that reading them
needs. A slot is read as one value, and if its type is named in the plural also as a list of values.
One value is, in this order, written out as its type's parser understands it, a single string that
converts to the type, or an expression of the grammar, whose own slots are read the same way one
level deeper. Windows nest at most `maxDepth` levels deep, which is what makes reading end.
-/

namespace ScriptBridge.Parsing

/-- The depth of the deepest window in which anything is read. -/
def maxDepth : Nat := 16

/-- What reading depends on apart from the tokens: the registries, the world in which names are
looked up, the whole text, and the circumstances. -/
structure Source where
  registries : Registries
  world : World
  text : List Char
  options : ParseOptions

/-- Reads a window of tokens as one value for a slot of a type. -/
abbrev ValueReader := List Token → Slot → TypeKey → Option Expression

/-- The tokens between two positions. -/
def window (tokens : List Token) (start stop : Nat) : List Token :=
  (tokens.drop start).take (stop - start)

namespace Source

/-- The piece of the text that the tokens were read from, first to last. -/
def textOf (source : Source) (tokens : List Token) : String :=
  match tokens.head?, tokens.getLast? with
  | some first, some last => String.ofList (Text.sliceBytes first.start last.stop source.text)
  | _, _ => ""

/-- The expression for a slot whose group was left out. -/
def defaultFor (source : Source) (slot : Slot) : Option Expression :=
  match slot.key.bind source.registries.types.get? with
  | none => none
  | some info =>
    match info.defaultSource with
    | .none => none
    | .eventValue => source.registries.values.expression? source.options.event info.key info.name
    | .custom supply => supply

/-- What a slot is bound to in the end: what was read for it, or its default if its group was left
out, unless it has none. -/
def slotValue (source : Source) (slots : List Slot) (bindings : Bindings) (index : Nat) :
    Option Expression :=
  match bindings.bound.find? (·.1 = index) with
  | some (_, expression) => some expression
  | none =>
    if bindings.skipped.contains index then
      match slots[index]? with
      | some slot => if slot.noDefault then none else source.defaultFor slot
      | none => none
    else none

/-- The match that a way to match a pattern comes to. -/
def toMatch (source : Source) (tokens : List Token) (pattern : Pattern) (number : Nat)
    (bindings : Bindings) : Match where
  pattern := number
  slots := (List.range pattern.slotCount).map (source.slotValue pattern.slots bindings)
  tags := bindings.tags
  text := source.textOf tokens
  options := source.options

/-- Reads a list of values, if the window is one and every item can be read. -/
def listOf? (item : ValueReader) (tokens : List Token) (slot : Slot) (key : TypeKey) :
    Option Expression :=
  match splitList tokens with
  | none => none
  | some parts =>
    (parts.mapM fun part => item (window tokens part.1 part.2) slot key).map (.list · key)

/-- Reads slots: one value, or for a plural slot a list of values. Single values are read by `value`
and the items of lists by `item`. -/
def slotReader (value item : ValueReader) (tokens : List Token) : SlotReader :=
  fun slot start stop =>
    match slot.key with
    | none => none
    | some key =>
      let piece := window tokens start stop
      match value piece slot key with
      | some expression => some expression
      | none => if slot.plural then listOf? item piece slot key else none

/-- Matches one pattern of an entry against a window. -/
def match? (source : Source) (value item : ValueReader) (tokens : List Token) (number : Nat)
    (pattern : Pattern) : Option Match :=
  (matchPattern (slotReader value item tokens) tokens pattern).map
    (source.toMatch tokens pattern number)

/-- What an expression must become to stand where a type is asked for: itself if it has the type, or
else converted, if there is a converter. -/
def fitTo (source : Source) (target : TypeKey) (expression : Expression) : Option Expression :=
  if expression.returnType = target then some expression
  else
    (source.registries.types.converter? expression.returnType target).map
      (.converted expression target ·)

/-- The first pattern of an entry, from the given number on, that matches with a match of which the
entry makes an expression that fits. -/
def entryExpression? (source : Source) (value item : ValueReader) (tokens : List Token)
    (target : TypeKey) (entry : ExpressionEntry) : Nat → List Pattern → Option Expression
  | _, [] => none
  | number, pattern :: rest =>
    match ((source.match? value item tokens number pattern).bind entry.factory).bind
        (source.fitTo target) with
    | some expression => some expression
    | none => source.entryExpression? value item tokens target entry (number + 1) rest

/-- Reads a window as an expression of the grammar whose values can stand where a type is asked for.
Entries are tried in order. -/
def expression? (source : Source) (value item : ValueReader) (tokens : List Token)
    (target : TypeKey) : Option Expression :=
  if tokens.isEmpty then none
  else
    source.registries.grammar.expressions.findSome? fun entry =>
      if source.registries.types.converts entry.returnType target then
        source.entryExpression? value item tokens target entry 0 entry.patterns
      else none

/-- The value that the parser of a type reads in a window. -/
def writtenOut? (source : Source) (tokens : List Token) (key : TypeKey) : Option Expression :=
  let text := source.textOf tokens
  ((source.registries.types.get? key).bind
      (·.parse? source.world text source.options.context)).map (.literal · text)

/-- The value that a single string converts to. -/
def fromString? (source : Source) (tokens : List Token) (key : TypeKey) : Option Expression :=
  match tokens with
  | [token] =>
    if token.kind = .quoted then
      (source.registries.types.convert (.text token.text) key).map (.literal · (source.textOf tokens))
    else none
  | _ => none

/-- Reads a window as one value, where the slots of expressions are read by `value` and `item`. -/
def valueWith (source : Source) (value item : ValueReader) : ValueReader :=
  fun tokens slot key =>
    if tokens.isEmpty then none
    else
      match source.writtenOut? tokens key with
      | some expression => some expression
      | none =>
        match source.fromString? tokens key with
        | some expression => some expression
        | none =>
          if slot.literalOnly then none else source.expression? value item tokens key

/-- Reads nothing. -/
def noValue : ValueReader := fun _ _ _ => none

/-- Reads a window as one value when `levels` more levels of windows may be opened, its own one
included. The items of a list stand two levels below the window of the pattern. -/
def valueAt (source : Source) : Nat → ValueReader
  | 0 => noValue
  | 1 => source.valueWith noValue noValue
  | levels + 2 => source.valueWith (source.valueAt (levels + 1)) (source.valueAt levels)

end Source

/-- A window of tokens at a depth, with everything that reading them needs. -/
structure Session where
  source : Source
  tokens : List Token
  depth : Nat := 0

namespace Session

/-- The session on a whole text. -/
def ofText (registries : Registries) (world : World) (options : ParseOptions) (text : String) :
    Session where
  source := { registries, world, text := text.toList, options }
  tokens := Token.tokenize text

/-- The levels of windows that may still be opened at a depth. -/
def levelsAt (depth : Nat) : Nat :=
  maxDepth + 1 - depth

/-- Reads one value in a window right below the session's. -/
def valueBelow (session : Session) : ValueReader :=
  session.source.valueAt (levelsAt (session.depth + 1))

/-- Reads one item of a list in a window two levels below the session's. -/
def itemBelow (session : Session) : ValueReader :=
  session.source.valueAt (levelsAt (session.depth + 2))

/-- Reads the tokens between two positions as the value of a slot. -/
def readSlot (session : Session) : SlotReader :=
  Source.slotReader session.valueBelow session.itemBelow session.tokens

/-- Matches one pattern of an entry against the window. -/
def match? (session : Session) (number : Nat) (pattern : Pattern) : Option Match :=
  session.source.match? session.valueBelow session.itemBelow session.tokens number pattern

/-- Reads the window as an expression whose values can stand where a type is asked for. -/
def expression? (session : Session) (target : TypeKey) : Option Expression :=
  if maxDepth < session.depth then none
  else session.source.expression? session.valueBelow session.itemBelow session.tokens target

end Session

end ScriptBridge.Parsing
