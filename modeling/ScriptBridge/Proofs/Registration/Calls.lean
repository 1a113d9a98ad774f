import ScriptBridge.Context
/-!
Calls that register something. A registrar in the making keeps indexes next to its lists: where a type of
some name or key stands, and where the entry of a wrapper does. A call checks, compiles, writes to the
indexes and adds to the lists one after the other, and may be refused on the way; what it wrote by then
stays written.
-/

namespace ScriptBridge

/-- A call that registers a type, a wrapper with or without native events, an effect or an expression. -/
inductive Call where
  | type (info : TypeInfo)
  | wrapper (spec : WrapperSpec) (event native : TypeKey) (wrap? : Option Wrapping)
  | declared (spec : WrapperSpec) (event : TypeKey)
  | effect (name : String) (patterns : List String) (factory : Match → Option Effect)
  | expression (name : String) (patterns : List String) (returns : TypeKey)
      (factory : Match → Option Expression)

/-- What a call makes of a registrar that is taken as a whole. -/
def Registrar.enrol (registrar : Registrar) : Call → Except RegistrationError Registrar
  | .type info => (registrar.types.register info).map fun types => { registrar with types }
  | .wrapper spec event native wrap? =>
    (registrar.wrappers.register spec event native wrap?).map fun wrappers =>
      { registrar with wrappers }
  | .declared spec event =>
    (registrar.wrappers.declare spec event).map fun wrappers => { registrar with wrappers }
  | .effect name patterns factory =>
    (registrar.grammar.addEffect name patterns factory).map fun grammar => { registrar with grammar }
  | .expression name patterns returns factory =>
    (registrar.grammar.addExpression name patterns returns factory).map fun grammar =>
      { registrar with grammar }

/-- A registrar with its indexes: the place of each type under its names, with whether the name is the
plural, and under its key, and the place of the entry of each wrapper. -/
structure Ledger where
  registrar : Registrar := {}
  byName : Table String (Nat × Bool) := {}
  byKey : Table TypeKey Nat := {}
  byWrapper : Table TypeKey Nat := {}

namespace Ledger

/-- The type that the index gives for a name, in any case, and whether the name is its plural. -/
def lookup (ledger : Ledger) (name : String) : Option (TypeInfo × Bool) := do
  let (place, plural) ← ledger.byName.get? (Text.lowercase name)
  let info ← ledger.registrar.types.types[place]?
  pure (info, plural)

/-- The type that the index gives for a key. -/
def type? (ledger : Ledger) (key : TypeKey) : Option TypeInfo := do
  ledger.registrar.types.types[← ledger.byKey.get? key]?

/-- The entry that the index gives for a wrapper. -/
def wrapperOf? (ledger : Ledger) (wrapper : TypeKey) : Option WrapperEntry := do
  ledger.registrar.wrappers.entries[← ledger.byWrapper.get? wrapper]?

/-- Adds a type to the list. -/
def pushType (ledger : Ledger) (info : TypeInfo) : Ledger :=
  { ledger with registrar.types.types := ledger.registrar.types.types ++ [info] }

/-- Adds an entry to the list of wrappers. -/
def pushEntry (ledger : Ledger) (entry : WrapperEntry) : Ledger :=
  { ledger with registrar.wrappers.entries := ledger.registrar.wrappers.entries ++ [entry] }

/-- Adds an effect. -/
def pushEffect (ledger : Ledger) (entry : EffectEntry) : Ledger :=
  { ledger with registrar.grammar.effects := ledger.registrar.grammar.effects ++ [entry] }

/-- Adds an expression. -/
def pushExpression (ledger : Ledger) (entry : ExpressionEntry) : Ledger :=
  { ledger with registrar.grammar.expressions := ledger.registrar.grammar.expressions ++ [entry] }

end Ledger

/-- What a call does to a ledger step by step. If it is refused, the ledger is left as it is by then. -/
abbrev Registering := ExceptT RegistrationError (StateM Ledger)

namespace Registering

/-- Registers a type: its key, its name and its plural must be free. -/
def type (info : TypeInfo) : Registering Unit := do
  let ledger ← get
  if ledger.byKey.contains info.key then throw (.duplicateType info.key.shortName)
  if ledger.byName.contains info.name then throw (.duplicateType info.name)
  if ledger.byName.contains info.plural then throw (.duplicateType info.plural)
  let place := ledger.registrar.types.types.length
  modify fun ledger => { ledger with byName := ledger.byName.insert info.name (place, false) }
  if info.plural ≠ info.name then
    modify fun ledger => { ledger with byName := ledger.byName.insert info.plural (place, true) }
  modify fun ledger => { ledger with byKey := ledger.byKey.insert info.key place }
  modify fun ledger => ledger.pushType info

/-- Adds the entry of a wrapper, which must not have one yet and whose patterns must compile. -/
def entry (spec : WrapperSpec) (wrapper : TypeKey) (source : Option WrapperSource) :
    Registering Unit := do
  let ledger ← get
  if (ledger.byWrapper.get? wrapper).isSome then
    throw (.duplicateConstructor wrapper ((ledger.wrapperOf? wrapper).bind (·.native?)))
  let patterns ← MonadExcept.ofExcept (compilePatterns spec.patterns)
  let place := ledger.registrar.wrappers.entries.length
  modify fun ledger => { ledger with byWrapper := ledger.byWrapper.insert wrapper place }
  modify fun ledger => ledger.pushEntry
    { name := spec.name, wrapper, source, patterns, bases := spec.bases
      description := spec.description }

/-- Registers a wrapper for native events under a key; it must have a constructor. -/
def wrapper (spec : WrapperSpec) (wrapper native : TypeKey) (wrap? : Option Wrapping) :
    Registering Unit :=
  match wrap? with
  | none => throw (.missingConstructor wrapper)
  | some wrap => entry spec wrapper (some ⟨native, wrap⟩)

/-- Registers an effect, whose patterns must compile. -/
def effect (name : String) (patterns : List String) (factory : Match → Option Effect) :
    Registering Unit := do
  let patterns ← MonadExcept.ofExcept (compileEntry name patterns)
  modify fun ledger => ledger.pushEffect { name, patterns, factory }

/-- Registers an expression, whose patterns must compile. -/
def expression (name : String) (patterns : List String) (returns : TypeKey)
    (factory : Match → Option Expression) : Registering Unit := do
  let patterns ← MonadExcept.ofExcept (compileEntry name patterns)
  modify fun ledger => ledger.pushExpression { name, patterns, factory, returnType := returns }

end Registering

/-- What a call does. -/
def Call.steps : Call → Registering Unit
  | .type info => Registering.type info
  | .wrapper spec event native wrap? => Registering.wrapper spec event native wrap?
  | .declared spec event => Registering.entry spec event none
  | .effect name patterns factory => Registering.effect name patterns factory
  | .expression name patterns returns factory => Registering.expression name patterns returns factory

namespace Registering

variable {α β : Type}

/-- The answer of steps that are taken on a ledger, and the ledger that they leave. -/
def on (steps : Registering α) (ledger : Ledger) : Except RegistrationError α × Ledger :=
  steps.run.run ledger

@[simp] theorem on_bind (steps : Registering α) (next : α → Registering β) (ledger : Ledger) :
    (steps >>= next).on ledger = match steps.on ledger with
      | (.ok value, left) => (next value).on left
      | (.error error, left) => (.error error, left) := by
  show (match steps.on ledger with
    | (answer, left) => (ExceptT.bindCont next answer).run left) = _
  rcases steps.on ledger with ⟨answer, left⟩
  cases answer <;> rfl

@[simp] theorem on_get (ledger : Ledger) : (get : Registering Ledger).on ledger = (.ok ledger, ledger) :=
  rfl

@[simp] theorem on_throw (error : RegistrationError) (ledger : Ledger) :
    (throw error : Registering α).on ledger = (.error error, ledger) := rfl

@[simp] theorem on_modify (change : Ledger → Ledger) (ledger : Ledger) :
    (modify change : Registering Unit).on ledger = (.ok (), change ledger) := rfl

@[simp] theorem on_ofExcept (result : Except RegistrationError α) (ledger : Ledger) :
    (MonadExcept.ofExcept result : Registering α).on ledger = (result, ledger) := by
  cases result <;> rfl

@[simp] theorem on_ite (condition : Prop) [Decidable condition] (steps others : Registering α)
    (ledger : Ledger) : (if condition then steps else others).on ledger
      = if condition then steps.on ledger else others.on ledger := by
  split <;> rfl

end Registering

namespace Ledger

/-- Makes a call: its answer, and the ledger that it leaves. -/
def perform (ledger : Ledger) (call : Call) : Except RegistrationError Unit × Ledger :=
  call.steps.on ledger

/-- Makes calls one after the other, whatever becomes of each. -/
def performAll (ledger : Ledger) (calls : List Call) : Ledger :=
  calls.foldl (fun ledger call => (ledger.perform call).2) ledger

/-- The answers to calls that are made one after the other. -/
def answers : Ledger → List Call → List (Except RegistrationError Unit)
  | _, [] => []
  | ledger, call :: rest => (ledger.perform call).1 :: (ledger.perform call).2.answers rest

/-- The calls that succeed when they are made one after the other. -/
def accepted : Ledger → List Call → List Call
  | _, [] => []
  | ledger, call :: rest =>
    match ledger.perform call with
    | (.ok (), next) => call :: next.accepted rest
    | (.error _, next) => next.accepted rest

end Ledger

end ScriptBridge
