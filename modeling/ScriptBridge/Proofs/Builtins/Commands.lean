import ScriptBridge.Builtins.Basic
import ScriptBridge.Proofs.Parsing.Resolution
/-!
When a chat line that was run as a command shows all the same. A command line is cancelled before it is
read, and what is read may take that back. Of the built-in effects one does, and its line is told by its
words. Effects of others count as far as their entries take the line.
-/

namespace ScriptBridge.Builtins

open Parsing

/-- The pattern of the effect that cancels events or takes that back. -/
def setCancelledPattern : Pattern where
  source := "(cancel|uncancel:uncancel) [the] event"
  nodes :=
    [.choice [.mk none [.literal "cancel"], .mk (some "uncancel") [.literal "uncancel"]],
     .optional (.mk none [.literal "the"]), .literal "event"]
  slotCount := 0

/-- The entry of that effect. -/
def setCancelledEntry : EffectEntry where
  name := "SetCancelled"
  patterns := [setCancelledPattern]
  factory := setCancelledFactory

/-- The entries of the built-in effects, whether or not their slots are resolved. -/
def AreBuiltin (entries : List EffectEntry) : Prop :=
  ∃ teleport message : List Pattern,
    entries =
        [⟨"Teleport", teleport, teleportFactory, false⟩, ⟨"Message", message, messageFactory, false⟩,
          setCancelledEntry]
      ∧ (∀ pattern ∈ teleport, opensWith ["teleport"] pattern.nodes = true)
      ∧ ∀ pattern ∈ message, opensWith ["message", "send"] pattern.nodes = true

theorem compile_setCancelled :
    compileEntry "SetCancelled" ["(cancel|uncancel:uncancel) [the] event"]
      = .ok [setCancelledPattern] := by
  with_unfolding_all rfl

/-- Whether patterns compile and all begin with one of these words. -/
def compilesOpening (words patterns : List String) : Bool :=
  match compilePatterns patterns with
  | .ok patterns => patterns.all fun pattern => opensWith words pattern.nodes
  | .error _ => false

theorem compilesOpening_teleport :
    compilesOpening ["teleport"] ["teleport %entities% to %position%"] = true := by
  decide +kernel

theorem compilesOpening_message :
    compilesOpening ["message", "send"] ["(message|send) %strings% [recipients:to %players%]"]
      = true := by
  decide +kernel

theorem effects_of_addEffect {words : List String} {grammar extended : Grammar} {name : String}
    {patterns : List String} {factory : Match → Option Effect}
    (opening : compilesOpening words patterns = true)
    (added : grammar.addEffect name patterns factory = .ok extended) :
    ∃ compiled, extended.effects = grammar.effects ++ [⟨name, compiled, factory, false⟩]
      ∧ ∀ pattern ∈ compiled, opensWith words pattern.nodes = true := by
  rw [Grammar.addEffect] at added
  split at added
  · cases added
  · next compiled here =>
      cases added
      refine ⟨compiled, rfl, ?_⟩
      rw [compileEntry] at here
      split at here
      · cases here
      · rw [compilesOpening, here] at opening
        exact List.all_eq_true.1 opening

/-- Registering the built-in vocabulary adds the entries of its effects behind the others. -/
theorem effects_of_register {options : Options} {before vocabulary : Registrar}
    (registered : options.register before = .ok vocabulary) :
    ∃ entries, AreBuiltin entries
      ∧ vocabulary.grammar.effects = before.grammar.effects ++ entries := by
  rw [Options.register] at registered
  obtain ⟨types, -, registered⟩ := bind_eq_ok registered
  obtain ⟨wrappers, -, registered⟩ := bind_eq_ok registered
  obtain ⟨expressions, addedExpressions, registered⟩ := bind_eq_ok registered
  obtain ⟨grammar, addedEffects, same⟩ := bind_eq_ok registered
  cases same
  have unchanged : expressions.effects = before.grammar.effects := by
    rw [addExpressions] at addedExpressions
    obtain ⟨first, addedFirst, addedExpressions⟩ := bind_eq_ok addedExpressions
    obtain ⟨second, addedSecond, addedThird⟩ := bind_eq_ok addedExpressions
    rw [Grammar.effects_of_addExpression addedThird, Grammar.effects_of_addExpression addedSecond,
      Grammar.effects_of_addExpression addedFirst]
  rw [addEffects] at addedEffects
  obtain ⟨first, addedTeleport, addedEffects⟩ := bind_eq_ok addedEffects
  obtain ⟨second, addedMessage, addedSetCancelled⟩ := bind_eq_ok addedEffects
  obtain ⟨teleport, effects_first, teleports⟩ :=
    effects_of_addEffect compilesOpening_teleport addedTeleport
  obtain ⟨message, effects_second, messages⟩ :=
    effects_of_addEffect compilesOpening_message addedMessage
  rw [Grammar.addEffect, compile_setCancelled] at addedSetCancelled
  cases addedSetCancelled
  refine ⟨_, ⟨teleport, message, rfl, teleports, messages⟩, ?_⟩
  show second.effects ++ [setCancelledEntry] = _
  rw [effects_second, effects_first, unchanged, List.append_assoc, List.append_assoc]
  rfl

/-- Resolving slots leaves the entries of the built-in effects what they are. -/
theorem AreBuiltin.resolve {lookup : TypeLookup} {entries resolved : List EffectEntry}
    (builtin : AreBuiltin entries) (resolves : Grammar.resolveEffects lookup entries = .ok resolved) :
    AreBuiltin resolved := by
  obtain ⟨teleport, message, rfl, teleports, messages⟩ := builtin
  rw [Grammar.resolveEffects] at resolves
  obtain ⟨first, resolved_teleport, resolves⟩ := bind_eq_ok resolves
  obtain ⟨rest, behind, same⟩ := bind_eq_ok resolves
  cases same
  rw [Grammar.resolveEffects] at behind
  obtain ⟨second, resolved_message, behind⟩ := bind_eq_ok behind
  obtain ⟨last, resolved_last, same⟩ := bind_eq_ok behind
  cases same
  cases resolved_last
  exact ⟨first, second, rfl, resolvePatterns_opensWith teleports resolved_teleport,
    resolvePatterns_opensWith messages resolved_message⟩

/-- Whether a text asks to do this to the event. -/
def asksEvent (verb : String) (tokens : List Token) : Bool :=
  spells tokens 0 [verb, "the", "event"] || spells tokens 0 [verb, "event"]

variable {read : SlotReader} {tokens : List Token}

theorem matchNodes_theEvent (start : Nat) :
    matchNodes read tokens [.optional (.mk none [.literal "the"]), .literal "event"]
        (matchEnd tokens) start
      = if spells tokens start ["the", "event"] || spells tokens start ["event"] then some {}
        else none := by
  have withArticle : matchNodes read tokens [.literal "the"]
      (matchNodes read tokens [.literal "event"] (matchEnd tokens)) start
        = if spells tokens start ["the", "event"] then some {} else none :=
    matchNodes_words ["the", "event"] start
  have without : matchNodes read tokens [.literal "event"] (matchEnd tokens) start
      = if spells tokens start ["event"] then some {} else none :=
    matchNodes_words ["event"] start
  rw [matchNodes, matchNode, matchBranch, withArticle, without]
  cases spells tokens start ["the", "event"] with
  | true => rfl
  | false =>
      cases spells tokens start ["event"] with
      | true => rfl
      | false => rfl

theorem matchBranch_verb (tag : Option String) (verb : String) :
    matchBranch read tokens (.mk tag [.literal verb])
        (matchNodes read tokens [.optional (.mk none [.literal "the"]), .literal "event"]
          (matchEnd tokens)) 0
      = if asksEvent verb tokens then some { tags := tag.toList } else none := by
  have parts : asksEvent verb tokens
      = (tokens[0]?.any (·.isLiteral verb)
          && (spells tokens 1 ["the", "event"] || spells tokens 1 ["event"])) :=
    (Bool.and_or_distrib_left _ _ _).symm
  rw [matchBranch, matchNodes, matchNode, matchLiteral_eq, matchNodes, matchNodes_theEvent, parts]
  cases tokens[0]?.any (·.isLiteral verb) with
  | false => rfl
  | true =>
      rw [Bool.true_and, if_pos rfl]
      split
      · simp [Bindings.enter]
      · rfl

theorem matchPattern_setCancelled :
    matchPattern read tokens setCancelledPattern
      = if asksEvent "cancel" tokens then some {}
        else if asksEvent "uncancel" tokens then some { tags := ["uncancel"] } else none := by
  rw [matchPattern, setCancelledPattern, matchNodes, matchNode, matchAnyBranch, matchBranch_verb,
    matchAnyBranch, matchBranch_verb, matchAnyBranch]
  cases asksEvent "cancel" tokens with
  | true => rfl
  | false =>
      cases asksEvent "uncancel" tokens with
      | true => rfl
      | false => rfl

theorem not_beginsWith_of_asksEvent {verb : String} {words : List String}
    (asks : asksEvent verb tokens = true)
    (apart : ∀ other ∈ words, Text.sameIgnoringCase verb other = false) :
    beginsWith tokens 0 words = false := by
  rcases Bool.or_eq_true_iff.1 asks with spelled | spelled
  · exact not_beginsWith spelled apart
  · exact not_beginsWith spelled apart

theorem beginsWith_of_asksEvent {verb : String} (asks : asksEvent verb tokens = true) :
    beginsWith tokens 0 [verb] = true := by
  rw [beginsWith, List.any_cons, List.any_nil, Bool.or_false]
  rcases Bool.or_eq_true_iff.1 asks with spelled | spelled
  · exact (Bool.and_eq_true_iff.1 spelled).1
  · exact (Bool.and_eq_true_iff.1 spelled).1

theorem effectOf_setCancelled (session : Session) :
    effectOf session [setCancelledEntry]
      = if asksEvent "cancel" session.tokens then some (setCancelled true)
        else if asksEvent "uncancel" session.tokens then some (setCancelled false) else none := by
  have made : effectOf session [setCancelledEntry]
      = (session.match? 0 setCancelledPattern).bind setCancelledFactory := by
    show List.findSome? (madeOf session) [(setCancelledEntry, 0, setCancelledPattern)] = _
    rw [List.findSome?_singleton]
    rfl
  rw [made, Session.match?, Source.match?, matchPattern_setCancelled]
  cases asksEvent "cancel" session.tokens with
  | true => rfl
  | false =>
      cases asksEvent "uncancel" session.tokens with
      | true => rfl
      | false => rfl

/-- An effect that leaves the flag of the event alone. -/
def KeepsFlag (effect : Effect) : Prop :=
  ∀ event scene, (effect.perform event scene).cancelled = event.cancelled

theorem keepsFlag_evaluating {α : Type} (description : String)
    (evaluate : World → Event → Except EvalError α) (act : α → Scene → Scene) :
    KeepsFlag (Effect.evaluating description evaluate act) := by
  intro event scene
  simp only [Effect.evaluating]
  split
  · rfl
  · rfl

theorem keepsFlag_of_teleportFactory {found : Match} {effect : Effect}
    (made : teleportFactory found = some effect) : KeepsFlag effect := by
  obtain ⟨targets, -, made⟩ := Option.bind_eq_some_iff.1 made
  obtain ⟨destination, -, made⟩ := Option.bind_eq_some_iff.1 made
  cases made
  exact keepsFlag_evaluating _ _ _

theorem keepsFlag_of_messageFactory {found : Match} {effect : Effect}
    (made : messageFactory found = some effect) : KeepsFlag effect := by
  obtain ⟨messages, -, made⟩ := Option.bind_eq_some_iff.1 made
  cases made
  exact keepsFlag_evaluating _ _ _

theorem cancelled_setCancelled (cancel : Bool) (event : Event) (scene : Scene) :
    ((setCancelled cancel).perform event scene).cancelled
      = if event.cancellable then cancel else event.cancelled := by
  simp only [setCancelled]
  split
  · rfl
  · rfl

namespace AreBuiltin

variable {entries : List EffectEntry} {session : Session}

/-- A text that asks to take back the cancelling of the event is read as that. -/
theorem effectOf_uncancel (builtin : AreBuiltin entries)
    (asks : asksEvent "uncancel" session.tokens = true) :
    effectOf session entries = some (setCancelled false) := by
  obtain ⟨teleport, message, rfl, teleports, messages⟩ := builtin
  have noTeleport : effectOf session [⟨"Teleport", teleport, teleportFactory, false⟩] = none :=
    effectOf_eq_none teleports (not_beginsWith_of_asksEvent asks (by decide))
  have noMessage : effectOf session [⟨"Message", message, messageFactory, false⟩] = none :=
    effectOf_eq_none messages (not_beginsWith_of_asksEvent asks (by decide))
  have noCancel : asksEvent "cancel" session.tokens = false := by
    cases cancels : asksEvent "cancel" session.tokens with
    | false => rfl
    | true =>
        have begins := beginsWith_of_asksEvent cancels
        rw [not_beginsWith_of_asksEvent asks (by decide)] at begins
        cases begins
  rw [← List.singleton_append, effectOf_append, noTeleport, ← List.singleton_append, effectOf_append,
    noMessage, effectOf_setCancelled, noCancel, asks]
  rfl

/-- Whatever else a text is read as, an event that is cancelled stays so. -/
theorem cancelled_of_effectOf (builtin : AreBuiltin entries) {effect : Effect}
    (made : effectOf session entries = some effect)
    (asks : asksEvent "uncancel" session.tokens = false) {event : Event}
    (cancelled : event.cancelled = true) (scene : Scene) :
    (effect.perform event scene).cancelled = true := by
  have kept (keeps : KeepsFlag effect) : (effect.perform event scene).cancelled = true :=
    (keeps event scene).trans cancelled
  obtain ⟨teleport, message, rfl, -, -⟩ := builtin
  rw [← List.singleton_append, effectOf_append, Option.or_eq_some_iff] at made
  rcases made with made | ⟨-, made⟩
  · obtain ⟨entry, listed, found, made⟩ := exists_factory_of_effectOf made
    rw [List.mem_singleton.1 listed] at made
    exact kept (keepsFlag_of_teleportFactory made)
  · rw [← List.singleton_append, effectOf_append, Option.or_eq_some_iff] at made
    rcases made with made | ⟨-, made⟩
    · obtain ⟨entry, listed, found, made⟩ := exists_factory_of_effectOf made
      rw [List.mem_singleton.1 listed] at made
      exact kept (keepsFlag_of_messageFactory made)
    · rw [effectOf_setCancelled, asks] at made
      split at made
      · cases made
        rw [cancelled_setCancelled, cancelled, ite_self]
      · cases made

end AreBuiltin

namespace EffectCommands

/-- What entries make of a command line. -/
def reading (commands : EffectCommands) (line : String) (scene : Scene) (entries : List EffectEntry) :
    Option Effect :=
  effectOf (Session.ofText commands.registries scene.world options line) entries

/-- Whether an effect clears the flag of an event that was cancelled for a command line. -/
def Clears (commands : EffectCommands) (line : String) (event : Event) (scene : Scene)
    (effect : Effect) : Prop :=
  let search := commands.registries.searchEffect scene.world line options
  (effect.perform (event.withCancelled true) (scene.noteAll search.notices)).cancelled = false

variable {commands : EffectCommands} {line : String} {event : Event} {scene : Scene}

/-- A command line leaves its event cancelled unless it is read as an effect that clears the flag. -/
theorem run_cancelled_eq_false_iff {player : EntityRef} {message : String} (scene : Scene)
    (chat : event.occurrence = .playerChat player message) (isLine : commands.line? message = some line) :
    (commands.run event scene).cancelled = false ↔
      ∃ effect, commands.reading line scene commands.registries.grammar.effects = some effect
        ∧ commands.Clears line event scene effect := by
  have flag : (commands.run event scene).cancelled
      = (commands.runLine line (event.withCancelled true) scene).cancelled := by
    simp only [run, chat, isLine]
    split
    · rfl
    · rfl
  rw [flag, runLine, reading, ← searchEffect_effect?]
  cases (commands.registries.searchEffect scene.world line options).effect? with
  | none =>
      constructor
      · intro impossible
        cases impossible
      · rintro ⟨effect, impossible, -⟩
        cases impossible
  | some effect =>
      constructor
      · exact fun cleared => ⟨effect, rfl, cleared⟩
      · rintro ⟨other, same, cleared⟩
        cases same
        exact cleared

/-- Of the built-in effects, just the one that a line asks for by its words clears the flag. -/
theorem reading_own_clears_iff {own : List EffectEntry} (builtin : AreBuiltin own)
    (cancellable : event.cancellable = true) {effect : Effect}
    (read : commands.reading line scene own = some effect) :
    commands.Clears line event scene effect ↔ asksEvent "uncancel" (Token.tokenize line) = true := by
  have tokens : (Session.ofText commands.registries scene.world options line).tokens
      = Token.tokenize line := rfl
  rw [← tokens]
  cases asks : asksEvent "uncancel" _ with
  | true =>
      have same := builtin.effectOf_uncancel asks
      rw [reading, same] at read
      cases read
      refine iff_of_true ?_ rfl
      rw [Clears, cancelled_setCancelled, Event.cancellable_withCancelled, cancellable]
      rfl
  | false =>
      refine iff_of_false ?_ Bool.false_ne_true
      rw [Clears, builtin.cancelled_of_effectOf read asks rfl]
      intro impossible
      cases impossible

theorem reading_own_of_asks (commands : EffectCommands) (scene : Scene) {own : List EffectEntry}
    (builtin : AreBuiltin own) (asks : asksEvent "uncancel" (Token.tokenize line) = true) :
    ∃ effect, commands.reading line scene own = some effect :=
  ⟨_, builtin.effectOf_uncancel asks⟩

/-- With the built-in effects among others, a line clears the flag if an entry in front of them takes it
and clears the flag, if it asks for that by its words and no entry in front takes it, or if an entry behind
them takes it and clears the flag. -/
theorem reading_clears_iff {first own others : List EffectEntry} (builtin : AreBuiltin own)
    (cancellable : event.cancellable = true) :
    (∃ effect, commands.reading line scene (first ++ (own ++ others)) = some effect
        ∧ commands.Clears line event scene effect) ↔
      (∃ effect, commands.reading line scene first = some effect
          ∧ commands.Clears line event scene effect)
        ∨ (commands.reading line scene first = none
          ∧ asksEvent "uncancel" (Token.tokenize line) = true)
        ∨ (commands.reading line scene first = none ∧ commands.reading line scene own = none
          ∧ ∃ effect, commands.reading line scene others = some effect
            ∧ commands.Clears line event scene effect) := by
  have parts : commands.reading line scene (first ++ (own ++ others))
      = (commands.reading line scene first).or
          ((commands.reading line scene own).or (commands.reading line scene others)) := by
    rw [reading, effectOf_append, effectOf_append]
    rfl
  rw [parts]
  cases commands.reading line scene first with
  | some effect => simp
  | none =>
      cases read : commands.reading line scene own with
      | some effect => simp [reading_own_clears_iff builtin cancellable read]
      | none =>
          -- a line that asks by its words would have been taken
          have asksNot : ¬ asksEvent "uncancel" (Token.tokenize line) = true := by
            intro asks
            obtain ⟨effect, taken⟩ := reading_own_of_asks commands scene builtin asks
            rw [read] at taken
            cases taken
          simp [asksNot]

end EffectCommands

/-- When the event of a command line shows. In registries with the built-in vocabulary, the flag is
cleared in the end just if the line asks for that in the words of the built-in effect, and no entry
registered earlier takes it, or if an effect from elsewhere that takes the line clears the flag. Without
other effects, that is: just if the line says to uncancel the event. -/
theorem command_shows_iff {options : Options} {before vocabulary whole : Registrar}
    {later : List EffectEntry} {context : SealedContext} {token message : String} {rest : List Char}
    {player : EntityRef} {event : Event} (scene : Scene)
    (registered : options.register before = .ok vocabulary)
    (extended : whole.grammar.effects = vocabulary.grammar.effects ++ later)
    (closed : whole.close = .ok context) (chat : event.occurrence = .playerChat player message)
    (begins : message.toList = token.toList ++ rest) :
    let commands : EffectCommands := { registries := context.registries, token }
    let line := String.ofList (Text.trim rest)
    let asks := asksEvent "uncancel" (Token.tokenize line) = true
    ∃ first own others,
      Grammar.resolveEffects whole.types.slotType before.grammar.effects = .ok first
        ∧ AreBuiltin own
        ∧ Grammar.resolveEffects whole.types.slotType later = .ok others
        ∧ context.registries.grammar.effects = first ++ (own ++ others)
        ∧ ((commands.run event scene).cancelled = false ↔
            (∃ effect, commands.reading line scene first = some effect
                ∧ commands.Clears line event scene effect)
              ∨ (commands.reading line scene first = none ∧ asks)
              ∨ (commands.reading line scene first = none ∧ commands.reading line scene own = none
                ∧ ∃ effect, commands.reading line scene others = some effect
                  ∧ commands.Clears line event scene effect))
        ∧ (before.grammar.effects = [] → later = [] →
            ((commands.run event scene).cancelled = false ↔ asks)) := by
  intro commands line asks
  obtain ⟨entries, builtin, effects⟩ := effects_of_register registered
  have resolves := Registrar.resolves_of_close closed
  rw [extended, effects, List.append_assoc] at resolves
  obtain ⟨first, behind, resolvedFirst, resolvedBehind, split⟩ := Grammar.resolveEffects_append resolves
  obtain ⟨own, others, resolvedOwn, resolvedOthers, rfl⟩ := Grammar.resolveEffects_append resolvedBehind
  have builtinOwn := builtin.resolve resolvedOwn
  have isLine : commands.line? message = some line := by
    rw [EffectCommands.line?, (restAfter?_eq_some_iff _ _ _).2 begins]
    rfl
  have cancellable : event.cancellable = true := by
    rw [Event.cancellable, chat]
  have shows := EffectCommands.run_cancelled_eq_false_iff scene chat isLine
  have registries : commands.registries.grammar.effects = first ++ (own ++ others) := split
  rw [registries, EffectCommands.reading_clears_iff builtinOwn cancellable] at shows
  refine ⟨first, own, others, resolvedFirst, builtinOwn, resolvedOthers, split, shows, ?_⟩
  intro noneBefore noneLater
  rw [noneBefore] at resolvedFirst
  rw [noneLater] at resolvedOthers
  cases resolvedFirst
  cases resolvedOthers
  have nothing : commands.reading line scene [] = none := rfl
  rw [shows, nothing]
  simp [asks]

/-- Such a line shows in registries of nothing but the built-in vocabulary. -/
theorem command_shows_uncancel :
    ∃ vocabulary context, Options.register {} {} = .ok vocabulary ∧ vocabulary.close = .ok context
      ∧ (EffectCommands.run { registries := context.registries, token := "!" }
          { occurrence := .playerChat ⟨0⟩ "!uncancel event" } { world := { bodies := [] } }).cancelled
        = false := by
  have succeeds : (Options.register {} {} >>= Registrar.close).isOk = true := by
    decide +kernel
  cases registered : Options.register {} {} with
  | error error =>
      rw [registered] at succeeds
      cases succeeds
  | ok vocabulary =>
      cases closed : vocabulary.close with
      | error error =>
          have fails : (Options.register {} {} >>= Registrar.close) = .error error := by
            rw [registered]
            exact closed
          rw [fails] at succeeds
          cases succeeds
      | ok context =>
          have extended : vocabulary.grammar.effects = vocabulary.grammar.effects ++ [] :=
            (List.append_nil _).symm
          have chat : Event.occurrence { occurrence := .playerChat ⟨0⟩ "!uncancel event" }
              = .playerChat ⟨0⟩ "!uncancel event" := rfl
          have begins : "!uncancel event".toList = "!".toList ++ "uncancel event".toList := by
            decide
          obtain ⟨first, own, others, -, -, -, -, -, shows⟩ :=
            command_shows_iff { world := { bodies := [] } } registered extended closed chat begins
          refine ⟨vocabulary, context, rfl, closed, (shows rfl rfl).2 ?_⟩
          decide +kernel

end ScriptBridge.Builtins
