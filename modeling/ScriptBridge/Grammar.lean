import ScriptBridge.EventValues
import ScriptBridge.Pattern.Compile
import ScriptBridge.Scene
import ScriptBridge.Types.Registry
/-!
The grammar of scripts: entries for effects and expressions, each with its patterns and a factory that
makes something of a match, or refuses it. Entries are tried in the order of their registration.
-/

namespace ScriptBridge

/-- A registered effect. Attempts to build a watched one are written down. -/
structure EffectEntry where
  name : String
  patterns : List Pattern
  factory : Match → Option Effect
  watched : Bool := false

/-- A registered expression with the type it is registered for. -/
structure ExpressionEntry where
  name : String
  patterns : List Pattern
  factory : Match → Option Expression
  returnType : TypeKey

/-- The registered effects and expressions in order. -/
structure Grammar where
  effects : List EffectEntry := []
  expressions : List ExpressionEntry := []

/-- Compiles the patterns of an entry, of which there must be one at least. -/
def compileEntry (name : String) (patterns : List String) :
    Except RegistrationError (List Pattern) :=
  if patterns.isEmpty then .error (.noPatterns name) else compilePatterns patterns

namespace Grammar

/-- Registers an effect. -/
def addEffect (grammar : Grammar) (name : String) (patterns : List String)
    (factory : Match → Option Effect) (watched : Bool := false) :
    Except RegistrationError Grammar :=
  match compileEntry name patterns with
  | .error error => .error error
  | .ok patterns =>
    .ok { grammar with effects := grammar.effects ++ [⟨name, patterns, factory, watched⟩] }

/-- Registers an expression for a type. -/
def addExpression (grammar : Grammar) (name : String) (patterns : List String) (returnType : TypeKey)
    (factory : Match → Option Expression) : Except RegistrationError Grammar :=
  match compileEntry name patterns with
  | .error error => .error error
  | .ok patterns =>
    .ok { grammar with
      expressions := grammar.expressions ++ [⟨name, patterns, factory, returnType⟩] }

/-- The number of entries. -/
def size (grammar : Grammar) : Nat :=
  grammar.effects.length + grammar.expressions.length

/-- Adds the expression for the event's value of a type. -/
def addEventValue (values : EventValues) (grammar : Grammar) (info : TypeInfo) :
    Except RegistrationError Grammar :=
  grammar.addExpression ("event-" ++ info.name) ["[the] [event-]" ++ info.name] info.key
    fun found => values.expression? found.options.event info.key info.name

/-- Adds the expression for the event's value of every type that defaults to it, in order. -/
def addEventValues (values : EventValues) : Grammar → List TypeInfo → Except RegistrationError Grammar
  | grammar, [] => .ok grammar
  | grammar, info :: rest =>
    match info.defaultSource with
    | .eventValue =>
      match grammar.addEventValue values info with
      | .error error => .error error
      | .ok grammar => addEventValues values grammar rest
    | _ => addEventValues values grammar rest

/-- Resolves the patterns of effects in order. -/
def resolveEffects (lookup : TypeLookup) :
    List EffectEntry → Except RegistrationError (List EffectEntry)
  | [] => .ok []
  | entry :: rest => do
    let patterns ← resolvePatterns lookup entry.patterns
    let rest ← resolveEffects lookup rest
    pure ({ entry with patterns } :: rest)

/-- Resolves the patterns of expressions in order. -/
def resolveExpressions (lookup : TypeLookup) :
    List ExpressionEntry → Except RegistrationError (List ExpressionEntry)
  | [] => .ok []
  | entry :: rest => do
    let patterns ← resolvePatterns lookup entry.patterns
    let rest ← resolveExpressions lookup rest
    pure ({ entry with patterns } :: rest)

/-- Completes the grammar with the expressions for event values and resolves every slot, effects
first. -/
def complete (grammar : Grammar) (types : TypeRegistry) (values : EventValues) :
    Except RegistrationError Grammar := do
  let grammar ← addEventValues values grammar types.types
  let effects ← resolveEffects types.slotType grammar.effects
  let expressions ← resolveExpressions types.slotType grammar.expressions
  pure { effects, expressions }

/-- The diagnostic text of a grammar. -/
def debugText (grammar : Grammar) : String :=
  "SyntaxRegistry \x7b effects: " ++ toString grammar.effects.length ++ ", expressions: "
    ++ toString grammar.expressions.length ++ " \x7d"

end Grammar

end ScriptBridge
