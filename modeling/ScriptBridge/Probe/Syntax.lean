import ScriptBridge.Grammar
import ScriptBridge.Probe.Textual
/-!
Probes of the grammar: effects that write down what they were bound to, and expressions with fixed
values or the values of their slots.
-/

namespace ScriptBridge.Probe

/-- What a probed entry asks of a match before it accepts it. -/
inductive Condition where
  | tagged (tag : String)
  | untagged (tag : String)
  | pattern (number : Nat)
  | bound (slot : Nat)
  | unbound (slot : Nat)
  | inEvent (event : TypeKey)
  | never
deriving DecidableEq, Repr

/-- Whether a match meets a condition. -/
def Condition.holds (found : Match) : Condition → Bool
  | .tagged tag => found.hasTag tag
  | .untagged tag => !found.hasTag tag
  | .pattern number => found.pattern == number
  | .bound slot => (found.slot? slot).isSome
  | .unbound slot => (found.slot? slot).isNone
  | .inEvent event => found.options.event == some event
  | .never => false

/-- A probed effect. -/
structure EffectProbe where
  name : String
  conditions : List Condition := []
  description : Option String := none

/-- The values of all slots in order; the first slot that fails makes all fail. -/
def slotValues (world : World) (event : Event) :
    List (Option Expression) → Except EvalError (List (Option (List Value)))
  | [] => .ok []
  | none :: rest => (slotValues world event rest).map (none :: ·)
  | some expression :: rest =>
    match expression.values world event with
    | .error error => .error error
    | .ok values => (slotValues world event rest).map (some values :: ·)

/-- The effect that writes down the values of its slots. -/
def EffectProbe.effect (probe : EffectProbe) (found : Match) : Effect where
  description := probe.description.getD ("Probe(" ++ probe.name ++ ")")
  perform event scene :=
    match slotValues scene.world event found.slots with
    | .error error => { cancelled := event.cancelled, state := scene, ending := .error error }
    | .ok slots =>
      { cancelled := event.cancelled
        state := scene.note (.performed probe.name slots)
        ending := .ok () }

/-- Makes the effect of a match that meets all conditions. -/
def EffectProbe.factory (probe : EffectProbe) (found : Match) : Option Effect :=
  if probe.conditions.all (·.holds found) then some (probe.effect found) else none

/-- Registers the effect; attempts to build it are written down. -/
def EffectProbe.addTo (probe : EffectProbe) (patterns : List String) (grammar : Grammar) :
    Except RegistrationError Grammar :=
  grammar.addEffect probe.name patterns probe.factory true

/-- A probed expression. Its values are made of fixed texts, or else of the texts of the values of its
slots; texts of which no value can be made are dropped, and of some types none can. -/
structure ExpressionProbe where
  name : String
  type : TypeKey
  texts : Option (List String) := none
  added : String := ""
  isSingle : Bool := true
  conditions : List Condition := []

/-- The texts of the values of all bound slots, in the order of the slots. -/
def slotTexts (world : World) (event : Event) (slots : List (Option Expression)) :
    Except EvalError (List String) :=
  (slotValues world event slots).map fun slots =>
    slots.flatMap fun values => (values.getD []).map world.textOf

/-- The value of the expression's type that a text makes. -/
def ExpressionProbe.make? (probe : ExpressionProbe) (text : String) : Option Value :=
  (Textual.ofKey? probe.type).bind (·.make? (probe.added ++ text))

/-- The expression for a match. -/
def ExpressionProbe.expression (probe : ExpressionProbe) (found : Match) : Expression :=
  .node
    { returnType := probe.type
      isSingle := probe.isSingle
      description := "Node(" ++ probe.name ++ ")"
      evaluate := fun world event =>
        let texts : Except EvalError (List String) :=
          match probe.texts with
          | some texts => .ok texts
          | none => slotTexts world event found.slots
        texts.map fun texts => texts.filterMap probe.make? }

/-- Makes the expression of a match that meets all conditions. -/
def ExpressionProbe.factory (probe : ExpressionProbe) (found : Match) : Option Expression :=
  if probe.conditions.all (·.holds found) then some (probe.expression found) else none

/-- Registers the expression for a type, which may differ from the type of its values. -/
def ExpressionProbe.addTo (probe : ExpressionProbe) (patterns : List String) (returns : TypeKey)
    (grammar : Grammar) : Except RegistrationError Grammar :=
  grammar.addExpression probe.name patterns returns probe.factory

end ScriptBridge.Probe
