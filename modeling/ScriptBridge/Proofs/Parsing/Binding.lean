import ScriptBridge.Proofs.Parsing.Report
/-!
What slots are bound to. A window is read as one value in one of four ways: written out, as a string that
converts, as what a registered entry makes of it, or as that converted; and a plural slot may be bound to a
list of such values instead. Each way has its rule, with what allows it, so that what holds of a binding is
read off the rules. Windows in windows are read by sessions of their own, to which the same applies. What an
entry hands over is bound as it is, so that it may itself be a constant or a list.
-/

namespace ScriptBridge

/-- Types whose parsers give values of their own, and whose converters give values of what they convert
to. -/
structure TypeRegistry.Keyed (registry : TypeRegistry) : Prop where
  parses : ∀ info ∈ registry.types, ∀ {parser}, info.parser = some parser →
    ∀ world text context value, parser.parse world text context = some value → value.key = info.key
  converts : ∀ {source target convert}, registry.converter? source target = some convert →
    ∀ value converted, convert value = some converted → converted.key = target

namespace TypeRegistry.Keyed

/-- Registering a type whose parser gives values of its own keeps a registry so. -/
theorem register {registry extended : TypeRegistry} {info : TypeInfo} (keyed : registry.Keyed)
    (own : ∀ {parser}, info.parser = some parser →
      ∀ world text context value, parser.parse world text context = some value →
        value.key = info.key)
    (registers : registry.register info = .ok extended) : extended.Keyed := by
  rw [TypeRegistry.register] at registers
  split at registers
  · cases registers
  · split at registers
    · cases registers
    · split at registers
      · cases registers
      · cases registers
        refine ⟨?_, keyed.converts⟩
        intro other listed parser present
        rcases List.mem_append.1 listed with listed | listed
        · exact keyed.parses other listed present
        · cases List.mem_singleton.1 listed
          exact own present

/-- So does adding a converter to a type, whose values are made as that type's. -/
theorem addConverter {α β : Type} {registry : TypeRegistry} {source : ValueKind α}
    {target : ValueKind β} {convert : α → Option β} (keyed : registry.Keyed)
    (own : ∀ value, (target.toValue value).key = target.key) :
    (registry.addConverter source target convert).Keyed := by
  refine ⟨keyed.parses, ?_⟩
  intro given asked found known value converted same
  rw [TypeRegistry.converter?, TypeRegistry.addConverter, Table.get?_insert] at known
  split at known
  · next pair =>
      cases pair
      cases known
      obtain ⟨made, -, rfl⟩ := Option.map_eq_some_iff.1 same
      exact own made
  · exact keyed.converts known value converted same

end TypeRegistry.Keyed

/-- Evaluating the expression yields nothing but values of a type. -/
def Expression.Yields (expression : Expression) (key : TypeKey) : Prop :=
  ∀ {world event values}, expression.values world event = .ok values →
    ∀ value ∈ values, value.key = key

namespace Expression

/-- Whether the expression is a constant. -/
def isLiteral : Expression → Bool
  | .literal _ _ => true
  | _ => false

/-- The items of the expression, if it is a list. -/
def items? : Expression → Option (List Expression)
  | .list items _ => some items
  | _ => none

theorem yields_literal {value : Value} {text : String} : (literal value text).Yields value.key := by
  intro world event values evaluates other listed
  rw [Expression.values] at evaluates
  cases evaluates
  rw [List.mem_singleton.1 listed]

/-- Converted values are of the target of a converter that keeps to it. -/
theorem yields_converted {inner : Expression} {target : TypeKey} {convert : Converter}
    (keeps : ∀ value converted, convert value = some converted → converted.key = target) :
    (converted inner target convert).Yields target := by
  intro world event values evaluates other listed
  rw [Expression.values] at evaluates
  obtain ⟨given, -, rfl⟩ := map_eq_ok evaluates
  obtain ⟨value, -, converts⟩ := List.mem_filterMap.1 listed
  exact keeps value other converts

/-- A list yields what its items yield. -/
theorem yields_list {items : List Expression} {key : TypeKey}
    (each : ∀ item ∈ items, item.Yields key) : (list items key).Yields key := by
  intro world event values evaluates
  rw [Expression.values] at evaluates
  induction items generalizing values with
  | nil =>
      cases evaluates
      simp
  | cons item rest ih =>
      rw [valuesOfAll] at evaluates
      split at evaluates
      · cases evaluates
      · next first here =>
          split at evaluates
          · cases evaluates
          · next others there =>
              cases evaluates
              intro value listed
              rcases List.mem_append.1 listed with listed | listed
              · exact each item (List.mem_cons_self ..) here value listed
              · exact ih (fun other inside => each other (List.mem_cons_of_mem _ inside)) there value
                  listed

end Expression

namespace Parsing

namespace Session

/-- The piece of the text that the session's tokens were read from. -/
def text (session : Session) : String :=
  session.source.textOf session.tokens

/-- A registered entry makes this of a match of one of its patterns with the session's window. -/
def Hands (session : Session) (made : Expression) : Prop :=
  ∃ entry ∈ session.source.registries.grammar.expressions, ∃ number pattern found,
    entry.patterns[number]? = some pattern ∧ session.match? number pattern = some found
      ∧ entry.factory found = some made

/-- The parser of a type may read in this context, and reads the session's text as this value. -/
def Writes (session : Session) (key : TypeKey) (value : Value) : Prop :=
  ∃ info parser, session.source.registries.types.get? key = some info ∧ info.parser = some parser
    ∧ parser.canParse session.source.options.context = true
    ∧ parser.parse session.source.world session.text session.source.options.context = some value

/-- The session's window is a single string, and what it stands for converts to this value. -/
def Quotes (session : Session) (key : TypeKey) (value : Value) : Prop :=
  ∃ token, session.tokens = [token] ∧ token.kind = .quoted
    ∧ session.source.registries.types.convert (.text token.text) key = some value

/-- The session's window stands for one value of a slot's type in this way. -/
inductive Fills (session : Session) (slot : Slot) (key : TypeKey) : Expression → Prop where
  | written {value : Value} (writes : session.Writes key value) :
      Fills session slot key (.literal value session.text)
  | quoted {value : Value} (quotes : session.Quotes key value) :
      Fills session slot key (.literal value session.text)
  | registered {made : Expression} (free : slot.literalOnly = false) (hands : session.Hands made)
      (typed : made.returnType = key) : Fills session slot key made
  | converted {made : Expression} {convert : Converter} (free : slot.literalOnly = false)
      (hands : session.Hands made)
      (known : session.source.registries.types.converter? made.returnType key = some convert) :
      Fills session slot key (.converted made key convert)

/-- The session's window stands for what a slot of a type is bound to: one value, or a list of two or more
if the slot is plural, each item of which stands in a window of its own. -/
inductive Binds (session : Session) (slot : Slot) (key : TypeKey) : Expression → Prop where
  | one {expression : Expression} (fills : session.Fills slot key expression) :
      Binds session slot key expression
  | several {parts : List (Nat × Nat)} {items : List Expression} (plural : slot.plural = true)
      (splits : splitList session.tokens = some parts) (atLeastTwo : 2 ≤ parts.length)
      (each : List.Forall₂ (fun part item => (session.within part.1 part.2).Fills slot key item)
        parts items) :
      Binds session slot key (.list items key)

end Session

/-! ### Reading follows the rules -/

section Reading

variable {session : Session} {slot : Slot} {key : TypeKey} {expression : Expression}

/-- At a depth at which anything is read, one value is read with the readers of the two depths below it. -/
theorem valueAt_levelsAt_of_le (source : Source) {depth : Nat} (within : depth ≤ maxDepth) :
    source.valueAt (Session.levelsAt depth)
      = source.valueWith (source.valueAt (Session.levelsAt (depth + 1)))
          (source.valueAt (Session.levelsAt (depth + 2))) := by
  obtain ⟨levels, here⟩ : ∃ levels, Session.levelsAt depth = levels + 1 :=
    Nat.exists_eq_succ_of_ne_zero (by unfold Session.levelsAt; omega)
  have below : Session.levelsAt (depth + 1) = levels := by
    unfold Session.levelsAt at here ⊢
    omega
  have belowThat : Session.levelsAt (depth + 2) = levels - 1 := by
    unfold Session.levelsAt at here ⊢
    omega
  rw [here, below, belowThat]
  cases levels with
  | zero => rfl
  | succ levels => rfl

theorem valueAt_levelsAt_of_lt (source : Source) {depth : Nat} (tooDeep : maxDepth < depth) :
    source.valueAt (Session.levelsAt depth) = Source.noValue := by
  have none_left : Session.levelsAt depth = 0 := by
    unfold Session.levelsAt
    omega
  rw [none_left, Source.valueAt]

/-- One value at a depth is read with the readers of the two depths below it, and below the deepest level
nothing is read. -/
theorem valueAt_levelsAt (source : Source) (depth : Nat) :
    source.valueAt (Session.levelsAt depth) = Source.noValue
      ∨ source.valueAt (Session.levelsAt depth)
        = source.valueWith (source.valueAt (Session.levelsAt (depth + 1)))
            (source.valueAt (Session.levelsAt (depth + 2))) := by
  rcases Nat.lt_or_ge maxDepth depth with tooDeep | within
  · exact Or.inl (valueAt_levelsAt_of_lt source tooDeep)
  · exact Or.inr (valueAt_levelsAt_of_le source within)

theorem fills_of_expression? (free : slot.literalOnly = false)
    (found : session.source.expression? session.valueBelow session.itemBelow session.tokens key
      = some expression) : session.Fills slot key expression := by
  rw [Source.expression?] at found
  split at found
  · cases found
  · obtain ⟨entry, listed, found⟩ := List.exists_of_findSome?_eq_some found
    split at found
    · obtain ⟨number, pattern, present, matching, made, matched, makes, fits⟩ :=
        made_of_entryExpression? found
      rw [Nat.zero_add] at matched
      have hands : session.Hands made :=
        ⟨entry, listed, number, pattern, matching, present, matched, makes⟩
      rw [Source.fitTo] at fits
      split at fits
      · next typed =>
          cases fits
          exact .registered free hands typed
      · obtain ⟨convert, known, rfl⟩ := Option.map_eq_some_iff.1 fits
        exact .converted free hands known
    · cases found

theorem writes_of_writtenOut?
    (found : session.source.writtenOut? session.tokens key = some expression) :
    session.Fills slot key expression := by
  obtain ⟨value, parsed, rfl⟩ := Option.map_eq_some_iff.1 found
  obtain ⟨info, known, parsed⟩ := Option.bind_eq_some_iff.1 parsed
  rw [TypeInfo.parse?] at parsed
  split at parsed
  · cases parsed
  · next parser present =>
      split at parsed
      · next allowed => exact .written ⟨info, parser, known, present, allowed, parsed⟩
      · cases parsed

theorem quotes_of_fromString?
    (found : session.source.fromString? session.tokens key = some expression) :
    session.Fills slot key expression := by
  unfold Source.fromString? at found
  split at found
  · next token alone =>
      split at found
      · next isQuoted =>
          obtain ⟨value, converts, rfl⟩ := Option.map_eq_some_iff.1 found
          exact .quoted ⟨token, alone, isQuoted, converts⟩
      · cases found
  · cases found

/-- One value that is read in the session's window stands there by one of the rules. -/
theorem fills_of_valueAt
    (found : session.source.valueAt (Session.levelsAt session.depth) session.tokens slot key
      = some expression) : session.Fills slot key expression := by
  rcases valueAt_levelsAt session.source session.depth with nothing | below
  · rw [nothing] at found
    cases found
  · rw [below, Source.valueWith] at found
    split at found
    · cases found
    · split at found
      · next here =>
          cases found
          exact writes_of_writtenOut? here
      · split at found
        · next here =>
            cases found
            exact quotes_of_fromString? here
        · split at found
          · cases found
          · next free => exact fills_of_expression? (by simpa using free) found

/-- What is read for a slot stands in its window by the rules for the slot's type. -/
theorem binds_of_readSlot {start stop : Nat} (found : session.readSlot slot start stop = some expression) :
    ∃ key, slot.key = some key ∧ (session.within start stop).Binds slot key expression := by
  rw [Session.readSlot, Source.slotReader] at found
  split at found
  · cases found
  · next key typed =>
      refine ⟨key, typed, ?_⟩
      simp only at found
      split at found
      · next here =>
          cases found
          exact .one (fills_of_valueAt here)
      · split at found
        · next plural =>
            rw [Source.listOf?] at found
            split at found
            · cases found
            · next parts splits =>
                obtain ⟨items, reads, rfl⟩ := Option.map_eq_some_iff.1 found
                have two := (Option.filter_eq_some_iff.1 splits).2
                refine .several plural splits (by simpa using two) ?_
                exact (forall₂_of_mapM reads).imp fun part item here => fills_of_valueAt here
        · cases found

end Reading

/-- A match binds a slot to what was read for it in a piece of the window or, if the slot was left out and may
have one, to its default. -/
theorem read_or_default_of_match? {session : Session} {pattern : Pattern} {number : Nat} {found : Match}
    (built : pattern.Built) (matched : session.match? number pattern = some found) {slot : Slot}
    (listed : slot ∈ pattern.slots) {expression : Expression}
    (bound : found.slot? slot.index = some expression) :
    (∃ start stop, session.readSlot slot start stop = some expression)
      ∨ slot.noDefault = false ∧ session.source.defaultFor slot = some expression := by
  obtain ⟨bindings, ways, rfl⟩ := Option.map_eq_some_iff.1 matched
  obtain ⟨way, first, rfl⟩ := (matchPattern_finds session.readSlot _ pattern).eq_some_iff.1 ways
  have derives : session.Derives pattern way := first.holds
  have value : session.source.slotValue pattern.slots (bindingsOf way) slot.index = some expression := by
    rw [← bound]
    simp [Match.slot?, Source.toMatch, (Pattern.getElem?_index built.indices listed).2]
  by_cases read : IsRead way slot
  · obtain ⟨start, stop, other, read⟩ := read
    rw [slotValue_of_read built.indices derives read] at value
    cases value
    exact .inl ⟨start, stop, (derives.of_mem read).2⟩
  · obtain ⟨ofDefault, ofNothing⟩ := slotValue_of_not_read built.indices derives listed read
    by_cases left : LeftOut pattern way slot ∧ slot.noDefault = false
    · exact .inr ⟨left.2, (ofDefault left.1 left.2).symm.trans value⟩
    · rw [ofNothing left] at value
      cases value

/-! ### What holds of bindings -/

/-- The expression is what a slot of a type is bound to as one value: it is of the type and no list, a constant
if the slot takes nothing else, and a constant stands in the window, written out or quoted. -/
structure Session.OneValue (session : Session) (slot : Slot) (key : TypeKey) (expression : Expression) :
    Prop where
  typed : expression.returnType = key
  single : expression.items? = none
  constant : slot.literalOnly = true → expression.isLiteral = true
  origin : ∀ {value text}, expression = .literal value text →
    text = session.text ∧ (session.Writes key value ∨ session.Quotes key value)

/-- The expression is handed over by a registered entry as one of the type, for a slot that takes more than
constants. -/
structure Session.HandsOver (session : Session) (slot : Slot) (key : TypeKey) (expression : Expression) :
    Prop where
  free : slot.literalOnly = false
  typed : expression.returnType = key
  hands : session.Hands expression

/-- The expression is one value in the window or, if the slot is plural, a list of two values or more, each of
which stands in a window of its own. What one value is depends on the window in which it stands. -/
def Session.Holds (session : Session) (slot : Slot) (key : TypeKey)
    (one : Session → Expression → Prop) (expression : Expression) : Prop :=
  one session expression
    ∨ slot.plural = true ∧ ∃ items, expression = .list items key ∧ 2 ≤ items.length
      ∧ ∀ item ∈ items, ∃ first last, one (session.within first last) item

/-- What registered entries hand over anywhere in a source is neither a constant nor a list. -/
def Source.HandsNodes (source : Source) : Prop :=
  ∀ session : Session, session.source = source → ∀ {made}, session.Hands made →
    made.items? = none ∧ made.isLiteral = false

/-- What registered entries hand over anywhere in a source yields values of its own type alone. -/
def Source.NodesYield (source : Source) : Prop :=
  ∀ session : Session, session.source = source → ∀ {made}, session.Hands made →
    made.Yields made.returnType

section Rules

variable {session : Session} {slot : Slot} {key : TypeKey} {expression : Expression}

theorem Session.Writes.key_eq (keyed : session.source.registries.types.Keyed) {value : Value}
    (writes : session.Writes key value) : value.key = key := by
  obtain ⟨info, parser, known, present, allowed, parses⟩ := writes
  have same : info.key = key := by simpa using List.find?_some known
  rw [← same]
  exact keyed.parses info (List.mem_of_find?_eq_some known) present _ _ _ value parses

theorem Session.Quotes.key_eq (keyed : session.source.registries.types.Keyed) {value : Value}
    (quotes : session.Quotes key value) : value.key = key := by
  obtain ⟨token, -, -, converts⟩ := quotes
  exact TypeRegistry.key_of_convert keyed.converts converts

/-- What stands in a window as one value is such a value, unless an entry hands it over. -/
theorem Session.Fills.oneValue_or_handsOver (fills : session.Fills slot key expression)
    (keyed : session.source.registries.types.Keyed) :
    session.OneValue slot key expression ∨ session.HandsOver slot key expression := by
  cases fills with
  | written writes =>
      refine .inl ⟨writes.key_eq keyed, rfl, fun _ => rfl, ?_⟩
      rintro value text ⟨⟩
      exact ⟨rfl, .inl writes⟩
  | quoted quotes =>
      refine .inl ⟨quotes.key_eq keyed, rfl, fun _ => rfl, ?_⟩
      rintro value text ⟨⟩
      exact ⟨rfl, .inr quotes⟩
  | registered free hands typed => exact .inr ⟨free, typed, hands⟩
  | converted free hands known =>
      exact .inl ⟨rfl, rfl, fun only => absurd (free.symm.trans only) (by decide), nofun⟩

/-- What an entry hands over is such a value too if it is neither a constant nor a list. -/
theorem Session.HandsOver.oneValue (handed : session.HandsOver slot key expression)
    (nodes : session.source.HandsNodes) : session.OneValue slot key expression := by
  obtain ⟨single, noConstant⟩ := nodes session rfl handed.hands
  refine ⟨handed.typed, single, fun only => absurd (handed.free.symm.trans only) (by decide), ?_⟩
  rintro value text rfl
  cases noConstant

theorem Session.Fills.returnType_eq (fills : session.Fills slot key expression)
    (keyed : session.source.registries.types.Keyed) : expression.returnType = key := by
  rcases fills.oneValue_or_handsOver keyed with own | handed
  · exact own.typed
  · exact handed.typed

theorem Session.Fills.yields (fills : session.Fills slot key expression)
    (keyed : session.source.registries.types.Keyed) (nodes : session.source.NodesYield) :
    expression.Yields key := by
  cases fills with
  | written writes =>
      rw [← writes.key_eq keyed]
      exact Expression.yields_literal
  | quoted quotes =>
      rw [← quotes.key_eq keyed]
      exact Expression.yields_literal
  | registered _ hands typed =>
      rw [← typed]
      exact nodes session rfl hands
  | converted _ _ known => exact Expression.yields_converted (keyed.converts known)

/-- What a slot is bound to holds one value or several, if what stands in a window is one. -/
theorem Session.Binds.holds {one : Session → Expression → Prop} (binds : session.Binds slot key expression)
    (each : ∀ {window made}, window.source = session.source → window.Fills slot key made →
      one window made) : session.Holds slot key one expression := by
  cases binds with
  | one fills => exact .inl (each rfl fills)
  | several plural splits atLeastTwo items =>
      refine .inr ⟨plural, _, rfl, items.length_eq ▸ atLeastTwo, ?_⟩
      intro item listed
      obtain ⟨part, -, fills⟩ := exists_of_mem_right items item listed
      exact ⟨part.1, part.2, each rfl fills⟩

theorem Session.Binds.returnType_eq (binds : session.Binds slot key expression)
    (keyed : session.source.registries.types.Keyed) : expression.returnType = key := by
  cases binds with
  | one fills => exact fills.returnType_eq keyed
  | several => rfl

theorem Session.Binds.yields (binds : session.Binds slot key expression)
    (keyed : session.source.registries.types.Keyed) (nodes : session.source.NodesYield) :
    expression.Yields key := by
  cases binds with
  | one fills => exact fills.yields keyed nodes
  | several plural splits atLeastTwo items =>
      apply Expression.yields_list
      intro item listed
      obtain ⟨part, -, fills⟩ := exists_of_mem_right items item listed
      exact fills.yields keyed nodes

end Rules

/-- A slot is bound to an expression of the type it asks for: to one value or, if it is plural, to a list of
two values or more, each of which stands in a window of its own. One value is no list, a constant if the slot
takes nothing else, and a constant stands in the window, written out where its type may be or quoted; only what
entries hand over is bound as it is, where a slot takes more than constants. If they hand over neither constants
nor lists, there is no such exception; and if what they hand over keeps to its type, so does all that evaluating
the binding yields. In a match each slot is bound to what was read for it so, or to its default if it was left
out. -/
theorem readSlot_well_typed {session : Session} (keyed : session.source.registries.types.Keyed) :
    (∀ {slot : Slot} {start stop : Nat} {expression : Expression},
      session.readSlot slot start stop = some expression →
        ∃ key, slot.key = some key ∧ expression.returnType = key
          ∧ (session.within start stop).Holds slot key
              (fun window made => window.OneValue slot key made ∨ window.HandsOver slot key made) expression
          ∧ (session.source.HandsNodes → (session.within start stop).Holds slot key
              (fun window made => window.OneValue slot key made) expression)
          ∧ (session.source.NodesYield → expression.Yields key))
      ∧ ∀ {pattern : Pattern} {number : Nat} {found : Match}, pattern.Built →
          session.match? number pattern = some found →
            ∀ slot ∈ pattern.slots, ∀ expression, found.slot? slot.index = some expression →
              (∃ start stop, session.readSlot slot start stop = some expression)
                ∨ slot.noDefault = false ∧ session.source.defaultFor slot = some expression := by
  constructor
  · intro slot start stop expression read
    obtain ⟨key, typed, binds⟩ := binds_of_readSlot read
    refine ⟨key, typed, binds.returnType_eq keyed, ?_, fun nodes => ?_, binds.yields keyed⟩
    · apply binds.holds
      intro window made same fills
      exact fills.oneValue_or_handsOver (same ▸ keyed)
    · apply binds.holds
      intro window made same fills
      rcases fills.oneValue_or_handsOver (same ▸ keyed) with own | handed
      · exact own
      · exact handed.oneValue (same ▸ nodes)
  · intro pattern number found built matched slot listed expression bound
    exact read_or_default_of_match? built matched listed bound

/-- Types with one converter, by which strings are names. -/
def quotedNames : TypeRegistry :=
  namesOnly.addConverter .text (.named "Name") some

theorem keyed_namesOnly : namesOnly.Keyed := by
  constructor
  · intro info listed parser present world text context value parses
    cases List.mem_singleton.1 listed
    cases present
    simp only at parses
    split at parses
    · cases parses
    · cases parses
      rfl
  · intro source target convert known
    cases known

theorem keyed_quotedNames : quotedNames.Keyed :=
  keyed_namesOnly.addConverter fun _ => rfl

/-- A session on a text, with these types and entries. -/
def withEntries (types : TypeRegistry) (expressions : List ExpressionEntry) (text : String) : Session :=
  .ofText ⟨types, ⟨{}, {}⟩, { expressions }⟩ ⟨[], .standard⟩ {} text

/-- The name of whoever speaks. -/
def speaker : ExpressionNode where
  returnType := .named "Name"
  isSingle := true
  description := "the speaker"
  evaluate := fun _ _ => .ok [.custom "Name" "speaker"]

/-- An entry that makes a node of what it matches. -/
def speakerEntry : ExpressionEntry where
  name := "speaker"
  patterns := [⟨"the speaker", [.literal "the", .literal "speaker"], 0⟩]
  factory := fun _ => some (.node speaker)
  returnType := .named "Name"

theorem eq_speaker_of_hands {session : Session} {made : Expression}
    (entries : session.source.registries.grammar.expressions = [speakerEntry])
    (hands : session.Hands made) : made = .node speaker := by
  obtain ⟨entry, listed, number, pattern, found, -, -, makes⟩ := hands
  rw [entries] at listed
  cases List.mem_singleton.1 listed
  exact (Option.some.inj makes).symm

/-- Three names make a list: a string converted, a name that is written out, and what an entry hands over. The
slot that is left out has its default. -/
theorem readSlot_well_typed_names :
    let session := withEntries quotedNames [speakerEntry] "hail \"ann lee\", bob and the speaker"
    ∃ compiled pattern found, Pattern.compile "hail %names% [near %name%]" = .ok compiled
      ∧ compiled.resolve quotedNames.slotType = .ok pattern
      ∧ session.match? 0 pattern = some found
      ∧ found.slots.map (·.map Expression.describe)
        = [some "\"ann lee\", bob and the speaker", some "anyone"]
      ∧ quotedNames.Keyed ∧ session.source.HandsNodes ∧ session.source.NodesYield
      ∧ ∀ slot ∈ pattern.slots, ∀ expression, found.slot? slot.index = some expression →
          (∃ start stop key, slot.key = some key ∧ expression.returnType = key
            ∧ (session.within start stop).Holds slot key
                (fun window made => window.OneValue slot key made) expression
            ∧ expression.Yields key)
          ∨ slot.noDefault = false ∧ session.source.defaultFor slot = some expression := by
  intro session
  have computed :
      ((((Pattern.compile "hail %names% [near %name%]").toOption.bind
        fun compiled => (compiled.resolve quotedNames.slotType).toOption).bind
        (session.match? 0)).map fun found => found.slots.map (·.map Expression.describe))
      = some [some "\"ann lee\", bob and the speaker", some "anyone"] := by
    decide +kernel
  obtain ⟨found, matched, told⟩ := Option.map_eq_some_iff.1 computed
  obtain ⟨pattern, resolved, matched⟩ := Option.bind_eq_some_iff.1 matched
  obtain ⟨compiled, compiles, resolves⟩ := Option.bind_eq_some_iff.1 resolved
  have compiles := eq_ok_of_toOption compiles
  have resolves := eq_ok_of_toOption resolves
  have handsNodes : session.source.HandsNodes := by
    intro other same made hands
    cases eq_speaker_of_hands (by rw [same]; rfl) hands
    exact ⟨rfl, rfl⟩
  have nodesYield : session.source.NodesYield := by
    intro other same made hands
    cases eq_speaker_of_hands (by rw [same]; rfl) hands
    intro world event values evaluates value listed
    cases evaluates
    cases List.mem_singleton.1 listed
    rfl
  obtain ⟨reads, bindings⟩ := @readSlot_well_typed session keyed_quotedNames
  refine ⟨compiled, pattern, found, compiles, resolves, matched, told, keyed_quotedNames, handsNodes,
    nodesYield, ?_⟩
  intro slot listed expression bound
  rcases bindings (.resolved (.compiled compiles) resolves) matched slot listed expression bound with
    ⟨start, stop, read⟩ | isDefault
  · obtain ⟨key, typed, returns, -, holds, yields⟩ := reads read
    exact .inl ⟨start, stop, key, typed, returns, holds handsNodes, yields nodesYield⟩
  · exact .inr isDefault

/-- Names, and titles that nothing is read as; by default they are those of the event. -/
def titledNames : TypeRegistry where
  types := namesOnly.types ++ [{
    key := .named "Title", name := "title", plural := "titles", displayName := "title"
    defaultSource := .eventValue }]

theorem keyed_titledNames : titledNames.Keyed := by
  refine ⟨?_, keyed_namesOnly.converts⟩
  intro info listed parser present
  rcases List.mem_append.1 listed with listed | listed
  · exact keyed_namesOnly.parses info listed present
  · cases List.mem_singleton.1 listed
    cases present

/-- Entries that hand over what is else not bound to slots: a constant that does not stand in the window, a list
of one, and a list for a slot that takes one value, which is the list in their own slot; and one whose slots
take constants alone. -/
def handingGrammar : Except RegistrationError Grammar := do
  let grammar ← Grammar.addExpression {} "dozen" ["the dozen"] (.named "Name") fun _ =>
    some (.literal (.custom "Name" "twelve") "the dozen")
  let grammar ← grammar.addExpression "alone" ["only me"] (.named "Name") fun _ =>
    some (.list [.literal (.custom "Name" "me") "me"] (.named "Name"))
  let grammar ← grammar.addExpression "all" ["all of %names%"] (.named "Name") (·.slot? 0)
  grammar.addEffect "greet" ["greet [%*name%] [as %*title%]"] fun _ => none

/-- These entries with names and titles; greetings have a title. -/
def handingRegistries : Except RegistrationError Registries := do
  let getters : GetterTable := Table.insert {} (.named "Greeting", .named "Title") fun _ _ => none
  Registries.freeze titledNames {} getters (← handingGrammar)

theorem types_handingRegistries {registries : Registries} (frozen : handingRegistries = .ok registries) :
    registries.types = titledNames := by
  obtain ⟨entries, -, frozen⟩ := bind_eq_ok frozen
  obtain ⟨wrappers, -, frozen⟩ := bind_eq_ok frozen
  obtain ⟨grammar, -, frozen⟩ := bind_eq_ok frozen
  cases frozen
  rfl

/-- Nothing with a space in it is written out. -/
theorem not_writes_of_space {session : Session} (types : session.source.registries.types = titledNames)
    (spaced : session.text.toList.contains ' ' = true) {key : TypeKey} {value : Value} :
    ¬ session.Writes key value := by
  rintro ⟨info, parser, known, present, -, parses⟩
  rw [types] at known
  rcases List.mem_append.1 (List.mem_of_find?_eq_some known) with listed | listed
  · cases List.mem_singleton.1 listed
    cases present
    simp only [if_pos spaced] at parses
    cases parses
  · cases List.mem_singleton.1 listed
    cases present

/-- What is handed over is bound as it is, though its type's parser reads nothing in the window and nothing is
quoted there: a constant, a list where the slot takes one value, and a list of one. Slots that take constants
alone are bound to their defaults if they are left out: to a constant that stands nowhere in the text, and to
what is no constant at all. -/
theorem readSlot_binds_what_is_handed :
    let session (registries : Registries) : String → Session :=
      .ofText registries ⟨[], .standard⟩ { event := some (.named "Greeting") }
    let name : Slot := { index := 0, typeName := "name", key := some (.named "Name") }
    titledNames.Keyed ∧ ∃ registries, handingRegistries = .ok registries
      ∧ (∃ made, (session registries "call the dozen").readSlot name 1 3 = some made
        ∧ made.isLiteral = true
        ∧ ∀ value, ¬ ((session registries "call the dozen").within 1 3).Writes (.named "Name") value
          ∧ ¬ ((session registries "call the dozen").within 1 3).Quotes (.named "Name") value)
      ∧ (∃ made, (session registries "call all of ann and bob").readSlot name 1 6 = some made
        ∧ made.items?.map (·.map Expression.describe) = some ["ann", "bob"])
      ∧ (∃ made, (session registries "call only me").readSlot { name with plural := true } 1 3 = some made
        ∧ made.items?.map (·.map Expression.describe) = some ["me"])
      ∧ ∃ pattern found, (registries.grammar.effects.flatMap (·.patterns)).head? = some pattern
        ∧ pattern.slots.map Slot.literalOnly = [true, true]
        ∧ (session registries "greet").match? 0 pattern = some found ∧ found.text = "greet"
        ∧ found.slots.map (·.map fun bound => (bound.isLiteral, bound.describe))
          = [some (true, "anyone"), some (false, "the title")] := by
  intro session name
  -- Only what can be compared is computed: whether there are registries, and what the readings come to in them.
  have freezes : handingRegistries.toOption.isSome = true := by decide +kernel
  obtain ⟨registries, frozen⟩ := Option.isSome_iff_exists.1 freezes
  have constant : (handingRegistries.toOption.bind fun registries =>
      ((session registries "call the dozen").readSlot name 1 3).map Expression.isLiteral) = some true := by
    decide +kernel
  have window : handingRegistries.toOption.map (fun registries =>
      (((session registries "call the dozen").within 1 3).text,
        ((session registries "call the dozen").within 1 3).tokens.length)) = some ("the dozen", 2) := by
    decide +kernel
  have several : (handingRegistries.toOption.bind fun registries =>
      ((session registries "call all of ann and bob").readSlot name 1 6).map fun made =>
        made.items?.map (·.map Expression.describe)) = some (some ["ann", "bob"]) := by
    decide +kernel
  have alone : (handingRegistries.toOption.bind fun registries =>
      ((session registries "call only me").readSlot { name with plural := true } 1 3).map fun made =>
        made.items?.map (·.map Expression.describe)) = some (some ["me"]) := by
    decide +kernel
  have greeted : (handingRegistries.toOption.bind fun registries =>
      (registries.grammar.effects.flatMap (·.patterns)).head?.bind fun pattern =>
        ((session registries "greet").match? 0 pattern).map fun found =>
          (pattern.slots.map Slot.literalOnly, found.text,
            found.slots.map (·.map fun bound => (bound.isLiteral, bound.describe))))
      = some ([true, true], "greet", [some (true, "anyone"), some (false, "the title")]) := by
    decide +kernel
  rw [frozen, Option.bind_some] at constant several alone greeted
  rw [frozen, Option.map_some] at window
  have types : registries.types = titledNames := types_handingRegistries (eq_ok_of_toOption frozen)
  refine ⟨keyed_titledNames, registries, eq_ok_of_toOption frozen, ?_, Option.map_eq_some_iff.1 several,
    Option.map_eq_some_iff.1 alone, ?_⟩
  · obtain ⟨made, read, isLiteral⟩ := Option.map_eq_some_iff.1 constant
    simp only [Option.some.injEq, Prod.mk.injEq] at window
    refine ⟨made, read, isLiteral, fun value => ⟨not_writes_of_space types ?_, ?_⟩⟩
    · rw [window.1]
      decide
    · rintro ⟨token, one, -⟩
      rw [one] at window
      cases window.2
  · obtain ⟨pattern, present, matched⟩ := Option.bind_eq_some_iff.1 greeted
    obtain ⟨found, matched, told⟩ := Option.map_eq_some_iff.1 matched
    simp only [Prod.mk.injEq] at told
    exact ⟨pattern, found, present, told.1, matched, told.2.1, told.2.2⟩

end Parsing

end ScriptBridge
