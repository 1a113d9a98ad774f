import ScriptBridge.Error
import ScriptBridge.Event
import ScriptBridge.World
/-!
Expressions: what a piece of script text that stands for values becomes. An expression is evaluated
against the world and the event at hand, and yields a list of values; a single one yields at most one.
-/

namespace ScriptBridge

/-- Reads one value out of an event. -/
abbrev Getter := World → Event → Option Value

/-- Turns a value of one type into one of another, where that is possible. -/
abbrev Converter := Value → Option Value

/-- An expression built by a registered entry. -/
structure ExpressionNode where
  returnType : TypeKey
  isSingle : Bool
  description : String
  evaluate : World → Event → Except EvalError (List Value)

/-- An expression. Apart from registered nodes there are the constants written in scripts, lists of
expressions, expressions whose values are converted one by one, and the values of the event itself. -/
inductive Expression where
  | literal (value : Value) (text : String)
  | list (items : List Expression) (type : TypeKey)
  | converted (inner : Expression) (target : TypeKey) (convert : Converter)
  | eventValue (type : TypeKey) (name : String) (read : Getter)
  | node (entry : ExpressionNode)

namespace Expression

/-- The type of every value that the expression yields. -/
def returnType : Expression → TypeKey
  | .literal value _ => value.key
  | .list _ type => type
  | .converted _ target _ => target
  | .eventValue type _ _ => type
  | .node entry => entry.returnType

/-- Whether the expression yields at most one value. -/
def isSingle : Expression → Bool
  | .literal _ _ => true
  | .list _ _ => false
  | .converted inner _ _ => inner.isSingle
  | .eventValue _ _ _ => true
  | .node entry => entry.isSingle

/-- Joins the descriptions of list items: commas between all but the last two, which are joined by
`and`. -/
def joinDescriptions : List String → String
  | [] => ""
  | [only] => only
  | [first, last] => first ++ " and " ++ last
  | first :: rest => first ++ ", " ++ joinDescriptions rest

mutual

/-- The text for an expression in diagnostics. -/
def describe : Expression → String
  | .literal _ text => text
  | .list items _ => joinDescriptions (describeAll items)
  | .converted inner _ _ => describe inner
  | .eventValue _ name _ => "the " ++ name
  | .node entry => entry.description

/-- The texts for list items in diagnostics. -/
def describeAll : List Expression → List String
  | [] => []
  | item :: rest => describe item :: describeAll rest

end

mutual

/-- Every value of the expression, in order. Values that do not convert are dropped, and the first
item of a list that fails makes the list fail. -/
def values (world : World) (event : Event) : Expression → Except EvalError (List Value)
  | .literal value _ => .ok [value]
  | .list items _ => valuesOfAll world event items
  | .converted inner _ convert => (values world event inner).map (·.filterMap convert)
  | .eventValue _ _ read => .ok (read world event).toList
  | .node entry => entry.evaluate world event

/-- The values of list items, one after the other. -/
def valuesOfAll (world : World) (event : Event) : List Expression → Except EvalError (List Value)
  | [] => .ok []
  | item :: rest =>
    match values world event item with
    | .error error => .error error
    | .ok first =>
      match valuesOfAll world event rest with
      | .error error => .error error
      | .ok others => .ok (first ++ others)

end

/-- The value of the expression if it has one; more than one is an error. -/
def value? (world : World) (event : Event) (expression : Expression) :
    Except EvalError (Option Value) :=
  match expression.values world event with
  | .error error => .error error
  | .ok [] => .ok none
  | .ok [value] => .ok (some value)
  | .ok several => .error (.notSingle expression.describe several.length)

end Expression

namespace ValueKind

variable {α : Type}

/-- What a value holds, if it belongs to the kind. -/
def get (kind : ValueKind α) (value : Value) : Except EvalError α :=
  match kind.ofValue? value with
  | some a => .ok a
  | none => .error (.typeMismatch kind.key value.key)

/-- What each of the values holds; the first one of another kind is an error. -/
def getAll (kind : ValueKind α) : List Value → Except EvalError (List α)
  | [] => .ok []
  | value :: rest =>
    match kind.get value with
    | .error error => .error error
    | .ok a => (kind.getAll rest).map (a :: ·)

end ValueKind

namespace Expression

variable {α : Type}

/-- What every value of the expression holds. -/
def all (kind : ValueKind α) (world : World) (event : Event) (expression : Expression) :
    Except EvalError (List α) :=
  match expression.values world event with
  | .error error => .error error
  | .ok values => kind.getAll values

/-- What the value of the expression holds, if there is one. -/
def single (kind : ValueKind α) (world : World) (event : Event) (expression : Expression) :
    Except EvalError (Option α) :=
  match expression.value? world event with
  | .error error => .error error
  | .ok none => .ok none
  | .ok (some value) => (kind.get value).map some

/-- What the one value of the expression holds; having none is an error. -/
def require (kind : ValueKind α) (world : World) (event : Event) (expression : Expression) :
    Except EvalError α :=
  match expression.single kind world event with
  | .error error => .error error
  | .ok (some a) => .ok a
  | .ok none => .error (.missing expression.describe)

end Expression

end ScriptBridge
