import ScriptBridge.Proofs.Builtins.Vocabulary
import ScriptBridge.Proofs.Parsing.QuotedLists
/-!
Strings survive the text boundary. With the built-in vocabulary alone, a message effect that is written with
its strings between quotes is read as the effect that sends exactly these strings, whatever characters they
are made of.
-/

namespace ScriptBridge.Builtins

open Parsing

/-! ### Strings in the vocabulary -/

variable {registries : Registries} {named : Bool}

namespace Holds

theorem exists_text (holds : Holds registries named) :
    ∃ info, registries.types.get? .text = some info ∧ info.parser = some stringParser := by
  rw [holds.types]
  exact ⟨_, rfl, rfl⟩

/-- Strings are rendered between quotes when that is asked for. -/
theorem mapM_render (holds : Holds registries named) {info : TypeInfo}
    (isText : registries.types.get? .text = some info) (world : World) (texts : List String) :
    texts.mapM (fun text => info.render world (.text text) { quoted := true })
      = .ok (texts.map quoteText) := by
  obtain ⟨other, known, parser⟩ := holds.exists_text
  rw [isText] at known
  cases known
  have each (text : String) : info.render world (.text text) { quoted := true }
      = .ok (quoteText text) := by
    rw [TypeInfo.render, parser]
    rfl
  simp only [each]
  exact List.mapM_pure

/-- Nothing is converted to a string. -/
theorem eq_text_of_converts (holds : Holds registries named) {key : TypeKey}
    (converts : registries.types.converts key .text = true) : key = .text := by
  rw [holds.types, TypeRegistry.converts, Bool.or_eq_true, beq_iff_eq] at converts
  rcases converts with same | converter
  · exact same
  · rw [TypeRegistry.converter?, typesWith, TypeRegistry.addConverter, Table.get?_insert] at converter
    split at converter
    · next same => cases same
    · cases converter

/-- In scripts and commands strings are only read between quotes. -/
theorem quotedOnly (holds : Holds registries named) {source : Source}
    (same : source.registries = registries)
    (inScripts : source.options.context = .script ∨ source.options.context = .command) :
    source.QuotedOnly := by
  subst same
  constructor
  · intro info known
    obtain ⟨text, isText, parser⟩ := holds.exists_text
    rw [isText] at known
    cases known
    rw [TypeInfo.canParse, parser]
    rcases inScripts with script | command
    · rw [script]
      rfl
    · rw [command]
      rfl
  · intro entry listed converts pattern isPattern
    rw [holds.texts entry listed (holds.eq_text_of_converts converts)] at isPattern
    rw [List.mem_singleton.1 isPattern]
    refine ⟨"message", by simp [chatMessagePattern], by decide⟩

end Holds

/-! ### The effect -/

variable {read : SlotReader} {tokens : List Token} {strings players : Slot}

/-- Without the word in front of them no recipients are read. -/
theorem matchNodes_recipients (absent : ∀ token ∈ tokens, token.isLiteral "to" = false) (start : Nat) :
    matchNodes read tokens
        [.optional (.mk (some "recipients") [.literal "to", .slot players])] (matchEnd tokens) start
      = if start = tokens.length then some { skipped := [players.index] } else none := by
  have noWord : (tokens[start]?.any (·.isLiteral "to")) = false := by
    cases here : tokens[start]? with
    | none => rfl
    | some token => exact absent token (List.mem_of_getElem? here)
  have unnamed : matchBranch read tokens (.mk (some "recipients") [.literal "to", .slot players])
      (matchNodes read tokens [] (matchEnd tokens)) start = none := by
    simp [matchBranch, matchNodes, matchNode, matchLiteral_eq, noWord]
  rw [matchNodes, matchNode, unnamed, matchNodes, matchEnd]
  by_cases atEnd : start = tokens.length
  · simp [atEnd, Bindings.skip, Branch.slots, slotsOfNodes, Node.slots]
  · simp [atEnd]

/-- A message without recipients takes all that stands behind its first word. -/
theorem matchPattern_message {first : Token} {rest : List Token} {messages : Expression}
    (isMessage : first.isLiteral "message" = true) (nonempty : rest ≠ [])
    (absent : ∀ token ∈ rest, token.isLiteral "to" = false)
    (reads : read strings 1 (first :: rest).length = some messages) :
    matchPattern read (first :: rest) (messagePattern strings players)
      = some { bound := [(strings.index, messages)], skipped := [players.index] } := by
  have noWord : ∀ token ∈ first :: rest, token.isLiteral "to" = false :=
    List.forall_mem_cons.2 ⟨not_isLiteral_of_apart isMessage (by decide), absent⟩
  have inside : 1 < (first :: rest).length := by
    simpa using List.length_pos_iff.2 nonempty
  have behind : matchNodes read (first :: rest)
      [.slot strings, .optional (.mk (some "recipients") [.literal "to", .slot players])]
      (matchEnd (first :: rest)) 1
      = some { bound := [(strings.index, messages)], skipped := [players.index] } := by
    rw [matchNodes, matchNode, matchSlot_of_stuck inside]
    · rw [matchNodes_recipients noWord, if_pos rfl, reads]
      rfl
    · intro stop _ short
      rw [matchNodes_recipients noWord, if_neg (Nat.ne_of_lt short)]
  rw [matchPattern, messagePattern, matchNodes, matchNode, matchAnyBranch, matchBranch, matchNodes,
    matchNode, matchLiteral_eq, List.getElem?_cons_zero, Option.any_some, if_pos isMessage, matchNodes,
    behind]
  rfl

/-- The slot for the strings, settled. -/
def messageSlot : Slot :=
  { index := 0, typeName := "strings", key := some .text, plural := true }

/-- The slot for the recipients, settled. -/
def recipientSlot : Slot :=
  { index := 1, typeName := "players", key := some .player, plural := true }

/-- The entry of the effect that sends messages, settled. -/
def messageEntry : EffectEntry where
  name := "Message"
  patterns := [messagePattern messageSlot recipientSlot]
  factory := messageFactory

theorem settle_message (named : Bool) :
    (typesWith named).slotType.settle { index := 0, typeName := "strings" } = messageSlot
      ∧ (typesWith named).slotType.settle { index := 1, typeName := "players" } = recipientSlot := by
  cases named with
  | false => decide +kernel
  | true => decide +kernel

/-- The effect that sends messages stands behind one that begins with another word. -/
theorem Holds.effects_eq (holds : Holds registries named) : ∃ teleport : Pattern,
    opensWith ["teleport"] teleport.nodes = true
      ∧ registries.grammar.effects
        = [⟨"Teleport", [teleport], teleportFactory, false⟩] ++ ([messageEntry] ++ [setCancelledEntry]) := by
  obtain ⟨messages, recipients⟩ := settle_message named
  rw [holds.effects, effectsWith, messages, recipients]
  exact ⟨_, rfl, rfl⟩

/-- What is made of a match that binds the strings and leaves out the recipients: they are those to whom
messages are sent by default. -/
theorem messageFactory_toMatch (source : Source) (tokens : List Token) (number : Nat)
    (messages : Expression) :
    ∃ recipients, messageFactory
        (source.toMatch tokens (messagePattern messageSlot recipientSlot) number
          { bound := [(messageSlot.index, messages)], skipped := [recipientSlot.index] })
      = some (message messages recipients false) := by
  let found := source.toMatch tokens (messagePattern messageSlot recipientSlot) number
    { bound := [(messageSlot.index, messages)], skipped := [recipientSlot.index] }
  have bound : found.slot? 0 = some messages := rfl
  have untagged : found.hasTag "recipients" = false := rfl
  refine ⟨found.slot? 1, ?_⟩
  show messageFactory found = _
  rw [messageFactory, bound, untagged]
  rfl

variable {session : Session} {first : Token} {rest : List Token} {texts : List String}

/-- Behind its first word, the entry for messages reads a list of quoted strings as these strings. -/
theorem effectOf_messageEntry (quotedOnly : session.source.QuotedOnly) (atTop : session.depth = 0)
    (tokens : session.tokens = first :: rest) (isMessage : first.isLiteral "message" = true)
    (list : QuotedList rest texts) :
    ∃ messages recipients, effectOf session [messageEntry] = some (message messages recipients false)
      ∧ messages.YieldsTexts texts := by
  have piece : QuotedList (window (first :: rest) 1 (first :: rest).length) texts := by
    simpa [window] using list
  have levels : session.valueBelow = session.source.valueAt 16
      ∧ session.itemBelow = session.source.valueAt 15 := by
    rw [Session.valueBelow, Session.itemBelow, atTop]
    exact ⟨rfl, rfl⟩
  obtain ⟨messages, reads, yields⟩ :=
    @Source.QuotedOnly.slotReader_list _ _ _ quotedOnly messageSlot rfl rfl _ _ piece 15 14
  rw [← levels.1, ← levels.2] at reads
  have matched := @matchPattern_message _ messageSlot recipientSlot _ _ _ isMessage list.ne_nil
    (list.not_isLiteral (by decide)) reads
  rcases messageFactory_toMatch session.source (first :: rest) 0 messages with ⟨recipients, made⟩
  refine ⟨messages, recipients, ?_, yields⟩
  show List.findSome? (madeOf session) [(messageEntry, 0, messagePattern messageSlot recipientSlot)] = _
  rw [List.findSome?_singleton, madeOf, Session.match?, Source.match?, tokens, matched]
  exact made

/-- So does the vocabulary as a whole: none of the effects that come first takes such a text. -/
theorem effectOf_message (holds : Holds registries named) (same : session.source.registries = registries)
    (inScripts : session.source.options.context = .script ∨ session.source.options.context = .command)
    (atTop : session.depth = 0) (tokens : session.tokens = first :: rest)
    (isMessage : first.isLiteral "message" = true) (list : QuotedList rest texts) :
    ∃ messages recipients, effectOf session registries.grammar.effects
        = some (message messages recipients false)
      ∧ messages.YieldsTexts texts := by
  obtain ⟨messages, recipients, sent, yields⟩ :=
    effectOf_messageEntry (holds.quotedOnly same inScripts) atTop tokens isMessage list
  obtain ⟨teleport, opens, effects⟩ := holds.effects_eq
  have begins : beginsWith session.tokens 0 ["teleport"] = false := by
    rw [tokens]
    simpa [beginsWith] using not_isLiteral_of_apart isMessage (by decide)
  have noTeleport : effectOf session [⟨"Teleport", [teleport], teleportFactory, false⟩] = none := by
    apply effectOf_eq_none _ begins
    intro pattern listed
    rw [List.mem_singleton.1 listed]
    exact opens
  refine ⟨messages, recipients, ?_, yields⟩
  rw [effects, effectOf_append, noTeleport, Option.none_or, effectOf_append, sent]
  rfl

/-- The words and items of the text are what it is made of. -/
theorem tokenize_message (nonempty : texts ≠ []) : ∃ first rest,
    Token.tokenize ("message " ++ Expression.joinDescriptions (texts.map quoteText)) = first :: rest
      ∧ first.isLiteral "message" = true ∧ QuotedList rest texts := by
  obtain ⟨first, later, scanned, word⟩ :=
    @Token.scan_word 0 false (Expression.joinDescriptions (texts.map quoteText)).toList 'm'
      "essage".toList (by decide) (by decide) (by decide)
  refine ⟨first, _, ?_, ?_, QuotedList.scan_joined nonempty later false⟩
  · rw [← scanned, Token.tokenize, String.toList_append]
    rfl
  · rw [Token.isLiteral, word.isWord, word.spelled]
    decide

/-- Strings survive the text boundary. In scripts and commands, and for whatever event, the word `message` and
a list of strings as the string type renders them between quotes are read as the effect that sends messages,
and its messages evaluate to exactly these strings, in order. -/
theorem quoted_messages_survive {options : Options} {vocabulary : Registrar} {context : SealedContext}
    {reading : ParseOptions} {texts : List String} (registered : options.register {} = .ok vocabulary)
    (closed : vocabulary.close = .ok context)
    (inScripts : reading.context = .script ∨ reading.context = .command) (nonempty : texts ≠ [])
    (world : World) :
    ∃ info quotes messages recipients,
      context.registries.types.get? .text = some info
      ∧ texts.mapM (fun text => info.render world (.text text) { quoted := true }) = .ok quotes
      ∧ (context.registries.searchEffect world ("message " ++ Expression.joinDescriptions quotes)
          reading).effect? = some (message messages recipients false)
      ∧ ∀ world event, messages.all .text world event = .ok texts := by
  have holds := holds_of_register registered closed
  obtain ⟨info, isText, -⟩ := holds.exists_text
  obtain ⟨first, rest, tokens, isMessage, list⟩ := tokenize_message nonempty
  obtain ⟨messages, recipients, read, yields⟩ :=
    @effectOf_message _ _ (Session.ofText context.registries world reading _) _ _ _ holds rfl inScripts
      rfl tokens isMessage list
  refine ⟨info, texts.map quoteText, messages, recipients, isText,
    holds.mapM_render isText world texts, ?_, yields.all_eq⟩
  rw [searchEffect_effect?]
  exact read

/-- Nothing, quotes, separators and line feeds are all sent as they are. -/
theorem quoted_messages_survive_tricky :
    ∃ vocabulary context messages recipients, Options.register {} {} = .ok vocabulary
      ∧ vocabulary.close = .ok context
      ∧ (context.registries.searchEffect { bodies := [] }
          "message \"\", \"\"\"\", \"a, b and c\" and \"to\n\"" {}).effect?
        = some (message messages recipients false)
      ∧ ∀ world event, messages.all .text world event = .ok ["", "\"", "a, b and c", "to\n"] := by
  obtain ⟨vocabulary, context, registered, closed⟩ := register_closes {}
  obtain ⟨info, quotes, messages, recipients, isText, rendered, read, all⟩ :=
    @quoted_messages_survive {} vocabulary context {} ["", "\"", "a, b and c", "to\n"] registered closed
      (.inl rfl) (List.cons_ne_nil _ _) { bodies := [] }
  rw [(holds_of_register registered closed).mapM_render isText] at rendered
  cases rendered
  have line : "message " ++ Expression.joinDescriptions
        (["", "\"", "a, b and c", "to\n"].map quoteText)
      = "message \"\", \"\"\"\", \"a, b and c\" and \"to\n\"" := by
    decide
  rw [line] at read
  exact ⟨vocabulary, context, messages, recipients, registered, closed, read, all⟩

end ScriptBridge.Builtins
