import Mathlib.Data.List.Forall2
import ScriptBridge.Proofs.Expressions.Typing
import ScriptBridge.Proofs.Parsing.FirstMatch
import ScriptBridge.Proofs.Parsing.Wording
import ScriptBridge.Proofs.Pattern.Layout
/-!
Reading keeps to types. Registered factories, parsers, converters and getters are arbitrary functions.
Where each of them gives what it is registered for, provided that it is given what it asks for, every
slot is bound to an expression of the type that the slot asks for. A slot is bound to what was read for
it in the derivation, or to its default; what is read in nested windows is by induction on the levels of
windows that may still be opened.
-/

namespace ScriptBridge

/-- The number and the key of every slot, where slots are numbered in their order. -/
def Pattern.Takes (pattern : Pattern) (keys : List TypeKey) : Prop :=
  pattern.slots.map (fun slot => (slot.index, slot.key))
    = keys.zipIdx.map fun (key, index) => (index, some key)

instance (pattern : Pattern) (keys : List TypeKey) : Decidable (pattern.Takes keys) :=
  inferInstanceAs (Decidable (_ = _))

/-- The pattern asks for this type at an index, be it the number of a slot or its place. -/
def Pattern.Asks (pattern : Pattern) (index : Nat) (key : TypeKey) : Prop :=
  ∃ place slot, pattern.slots[place]? = some slot ∧ (slot.index = index ∨ place = index)
    ∧ slot.key = some key

theorem Pattern.Takes.key_of_asks {pattern : Pattern} {keys : List TypeKey} {index : Nat}
    {key : TypeKey} (takes : pattern.Takes keys) (asks : pattern.Asks index key) :
    keys[index]? = some key := by
  obtain ⟨place, slot, present, number, typed⟩ := asks
  have here := congrArg (·[place]?) takes
  simp only [List.getElem?_map, present, Option.map_some, List.getElem?_zipIdx] at here
  cases listed : keys[place]? with
  | none =>
      rw [listed] at here
      cases here
  | some other =>
      rw [listed] at here
      simp only [Option.map_some, Option.some.injEq, Prod.mk.injEq, Nat.zero_add, typed] at here
      obtain ⟨numbered, rfl⟩ := here
      rcases number with same | same
      · rw [← same, numbered]
        exact listed
      · rw [← same]
        exact listed

/-- Whatever is bound in a match is of a type that the pattern asks for there. -/
def Match.Fits (found : Match) (pattern : Pattern) : Prop :=
  ∀ index expression, found.slot? index = some expression →
    ∃ key, pattern.Asks index key ∧ expression.HasType key

theorem Match.Fits.slot {found : Match} {pattern : Pattern} {keys : List TypeKey} {index : Nat}
    {key : TypeKey} {expression : Expression} (fits : found.Fits pattern) (takes : pattern.Takes keys)
    (bound : found.slot? index = some expression) (asked : keys[index]? = some key) :
    expression.HasType key := by
  obtain ⟨other, asks, typed⟩ := fits index expression bound
  rw [takes.key_of_asks asks, Option.some.injEq] at asked
  rw [← asked]
  exact typed

/-- Whatever a factory makes of fitting matches is good. -/
def Pattern.Makes {α : Type} (pattern : Pattern) (factory : Match → Option α) (good : α → Prop) :
    Prop :=
  ∀ found : Match, found.Fits pattern → ∀ made, factory found = some made → good made

/-- Types that give what they are registered for: values of their own when they are written out or
converted to, and expressions of their own in the place of slots that are left out. -/
structure TypeRegistry.Typed (registry : TypeRegistry) : Prop where
  parses : ∀ info ∈ registry.types, ∀ {world text context value},
    info.parse? world text context = some value → value.key = info.key
  supplies : ∀ info ∈ registry.types, ∀ {expression},
    info.defaultSource = .custom (some expression) → expression.HasType info.key
  converts : ∀ {source target convert}, registry.converter? source target = some convert →
    ∀ value converted, convert value = some converted → converted.key = target

/-- Where converters keep to their targets, a conversion gives a value of the type that was asked for. -/
theorem TypeRegistry.key_of_convert {registry : TypeRegistry}
    (keep : ∀ {source target convert}, registry.converter? source target = some convert →
      ∀ value converted, convert value = some converted → converted.key = target)
    {value converted : Value} {target : TypeKey}
    (converts : registry.convert value target = some converted) : converted.key = target := by
  rw [TypeRegistry.convert] at converts
  split at converts
  · next same =>
      cases converts
      exact same
  · obtain ⟨convert, known, converts⟩ := Option.bind_eq_some_iff.1 converts
    exact keep known value converted converts

/-- Event values that are of the type under which they are asked for. -/
def EventValues.Typed (values : EventValues) : Prop :=
  ∀ key world event value, values.get? key world event = some value → value.key = key

theorem EventValues.Typed.hasType_of_expression? {values : EventValues} (typed : values.Typed)
    {ambient : Option TypeKey} {key : TypeKey} {name : String} {expression : Expression}
    (provided : values.expression? ambient key name = some expression) : expression.HasType key := by
  unfold EventValues.expression? at provided
  split at provided
  · cases provided
  · split at provided
    · cases provided
      exact .eventValue name (typed key)
    · cases provided

/-- Registries that keep to types. -/
structure Registries.Typed (registries : Registries) : Prop where
  types : registries.types.Typed
  values : registries.values.Typed
  expressions : ∀ entry ∈ registries.grammar.expressions, ∀ pattern ∈ entry.patterns,
    pattern.Makes entry.factory fun expression => expression.HasType expression.returnType

namespace Parsing

/-- A reader that gives expressions of the type it is asked for. -/
def ValueReader.Typed (read : ValueReader) : Prop :=
  ∀ tokens slot key expression, read tokens slot key = some expression → expression.HasType key

/-- A reader that gives every slot an expression of the slot's type. -/
def SlotReader.Typed (read : SlotReader) : Prop :=
  ∀ slot start stop expression, read slot start stop = some expression →
    ∃ key, slot.key = some key ∧ expression.HasType key

section Derivations

variable {read : SlotReader} {tokens : List Token}

mutual

/-- What a node's derivation reads is read for a slot of the node. -/
theorem NodeDerives.of_mem : ∀ {node : Node} {start stop : Nat} {way : List Decision},
    NodeDerives read tokens node start way stop →
    ∀ {slot first last expression}, Decision.read slot first last expression ∈ way →
      slot ∈ node.slots ∧ read slot first last = some expression
  | _, _, _, _, .literal _ _, _, _, _, _, listed => by cases listed
  | _, _, _, _, .choice chosen derives, _, _, _, _, listed => by
      rcases List.mem_cons.1 listed with same | listed
      · cases same
      · obtain ⟨inside, value⟩ := derives.of_mem listed
        exact ⟨(slots_sublist_of_chosen chosen).subset inside, value⟩
  | _, _, _, _, @NodeDerives.taken _ _ (.mk tag nodes) _ _ _ derives, _, _, _, _, listed => by
      rcases List.mem_cons.1 listed with same | listed
      · cases same
      · exact derives.of_mem listed
  | _, _, _, _, .skipped, _, _, _, _, listed => by
      cases List.mem_singleton.1 listed
  | _, _, _, _, .slot _ _ value, _, _, _, _, listed => by
      cases List.mem_singleton.1 listed
      exact ⟨List.mem_singleton_self _, value⟩

/-- What the derivation of a sequence reads is read for a slot in it. -/
theorem NodesDerive.of_mem : ∀ {nodes : List Node} {start stop : Nat} {way : List Decision},
    NodesDerive read tokens nodes start way stop →
    ∀ {slot first last expression}, Decision.read slot first last expression ∈ way →
      slot ∈ slotsOfNodes nodes ∧ read slot first last = some expression
  | _, _, _, _, .nil, _, _, _, _, listed => by cases listed
  | _, _, _, _, .cons first rest, _, _, _, _, listed => by
      rcases List.mem_append.1 listed with listed | listed
      · obtain ⟨inside, value⟩ := first.of_mem listed
        exact ⟨List.mem_append_left _ inside, value⟩
      · obtain ⟨inside, value⟩ := rest.of_mem listed
        exact ⟨List.mem_append_right _ inside, value⟩

end

/-- What is bound was read on the way. -/
theorem of_mem_bound {way : List Decision} {index : Nat} {expression : Expression}
    (bound : (index, expression) ∈ (bindingsOf way).bound) :
    ∃ slot start stop, Decision.read slot start stop expression ∈ way ∧ slot.index = index := by
  induction way with
  | nil => cases bound
  | cons decision rest ih =>
      have later (bound : (index, expression) ∈ (bindingsOf rest).bound) :
          ∃ slot start stop, Decision.read slot start stop expression ∈ decision :: rest
            ∧ slot.index = index := by
        obtain ⟨slot, start, stop, listed, same⟩ := ih bound
        exact ⟨slot, start, stop, List.mem_cons_of_mem _ listed, same⟩
      cases decision with
      | branch number tag => exact later bound
      | take tag => exact later bound
      | skip slots => exact later bound
      | read slot start stop value =>
          rcases List.mem_cons.1 bound with same | bound
          · cases same
            exact ⟨slot, start, stop, List.mem_cons_self .., rfl⟩
          · exact later bound

/-- Matching a pattern binds the number of a slot to something read for that slot. -/
theorem of_mem_matchPattern {pattern : Pattern} {bindings : Bindings} {index : Nat}
    {expression : Expression} (matched : matchPattern read tokens pattern = some bindings)
    (bound : (index, expression) ∈ bindings.bound) :
    ∃ slot ∈ pattern.slots, slot.index = index ∧
      ∃ start stop, read slot start stop = some expression := by
  obtain ⟨way, isFirst, rfl⟩ := (matchPattern_finds read tokens pattern).eq_some_iff.1 matched
  obtain ⟨slot, start, stop, listed, same⟩ := of_mem_bound bound
  obtain ⟨inside, value⟩ := isFirst.holds.of_mem listed
  exact ⟨slot, inside, same, start, stop, value⟩

end Derivations

section Lists

variable {α β : Type}

theorem forall₂_of_mapM {read : α → Option β} {xs : List α} {ys : List β}
    (reads : xs.mapM read = some ys) : List.Forall₂ (fun x y => read x = some y) xs ys := by
  induction xs generalizing ys with
  | nil =>
      cases reads
      exact .nil
  | cons x rest ih =>
      rw [List.mapM_cons] at reads
      obtain ⟨first, here, reads⟩ := Option.bind_eq_some_iff.1 reads
      obtain ⟨others, there, same⟩ := Option.bind_eq_some_iff.1 reads
      cases same
      exact .cons here (ih there)

theorem exists_of_mem_right {relation : α → β → Prop} {xs : List α} {ys : List β}
    (related : List.Forall₂ relation xs ys) : ∀ y ∈ ys, ∃ x ∈ xs, relation x y := by
  induction related with
  | nil => simp
  | cons here _ ih =>
      intro y listed
      rcases List.mem_cons.1 listed with rfl | listed
      · exact ⟨_, List.mem_cons_self .., here⟩
      · obtain ⟨x, inside, there⟩ := ih y listed
        exact ⟨x, List.mem_cons_of_mem _ inside, there⟩

end Lists

section Reading

variable {source : Source} {value item : ValueReader} {tokens : List Token}

theorem hasType_of_listOf? (items : item.Typed) {slot : Slot} {key : TypeKey} {expression : Expression}
    (found : Source.listOf? item tokens slot key = some expression) : expression.HasType key := by
  rw [Source.listOf?] at found
  split at found
  · cases found
  · next parts split =>
      obtain ⟨read, taken, rfl⟩ := Option.map_eq_some_iff.1 found
      apply Expression.HasType.list
      intro expression listed
      obtain ⟨part, -, here⟩ := exists_of_mem_right (forall₂_of_mapM taken) expression listed
      exact items _ _ _ _ here

theorem slotReader_typed (values : value.Typed) (items : item.Typed) :
    SlotReader.Typed (Source.slotReader value item tokens) := by
  intro slot start stop expression found
  rw [Source.slotReader] at found
  split at found
  · cases found
  · next key typed =>
      refine ⟨key, typed, ?_⟩
      simp only at found
      split at found
      · next here =>
          cases found
          exact values _ _ _ _ here
      · split at found
        · exact hasType_of_listOf? items found
        · cases found

/-- What an entry makes that fits is made of a match of one of its patterns, and has the type or is
converted to it. -/
theorem made_of_entryExpression? {target : TypeKey} {entry : ExpressionEntry} {patterns : List Pattern} {first : Nat}
    (found : source.entryExpression? value item tokens target entry first patterns = some expression) :
    ∃ number pattern, patterns[number]? = some pattern ∧ ∃ matching made,
      source.match? value item tokens (first + number) pattern = some matching
      ∧ entry.factory matching = some made ∧ source.fitTo target made = some expression := by
  induction patterns generalizing first with
  | nil => cases found
  | cons pattern rest ih =>
      rw [Source.entryExpression?] at found
      split at found
      · next here =>
          cases found
          obtain ⟨made, here, fits⟩ := Option.bind_eq_some_iff.1 here
          obtain ⟨matching, matched, makes⟩ := Option.bind_eq_some_iff.1 here
          exact ⟨0, pattern, rfl, matching, made, matched, makes, fits⟩
      · obtain ⟨number, later, listed, matching, made, matched, makes, fits⟩ := ih found
        refine ⟨number + 1, later, listed, matching, made, ?_, makes, fits⟩
        rwa [show first + (number + 1) = first + 1 + number by omega]

variable (typed : source.registries.Typed)
include typed

/-- Defaults are of the type that the slot asks for. -/
theorem hasType_of_defaultFor {slot : Slot} {expression : Expression}
    (supplied : source.defaultFor slot = some expression) :
    ∃ key, slot.key = some key ∧ expression.HasType key := by
  rw [Source.defaultFor] at supplied
  split at supplied
  · cases supplied
  · next info known =>
      obtain ⟨key, asked, known⟩ := Option.bind_eq_some_iff.1 known
      have same : info.key = key := by simpa using List.find?_some known
      refine ⟨key, asked, ?_⟩
      rw [← same]
      split at supplied
      · cases supplied
      · exact EventValues.Typed.hasType_of_expression? typed.values supplied
      · next supply custom =>
          cases supplied
          exact typed.types.supplies info (List.mem_of_find?_eq_some known) custom

/-- What a slot is bound to is of a type that the pattern asks for there. -/
theorem hasType_of_slotValue (values : value.Typed) (items : item.Typed) {pattern : Pattern}
    {bindings : Bindings} {index : Nat} {expression : Expression}
    (matched : matchPattern (Source.slotReader value item tokens) tokens pattern = some bindings)
    (bound : source.slotValue pattern.slots bindings index = some expression) :
    ∃ key, pattern.Asks index key ∧ expression.HasType key := by
  rw [Source.slotValue] at bound
  split at bound
  · next number read present =>
      cases bound
      obtain ⟨slot, listed, same, start, stop, taken⟩ :=
        of_mem_matchPattern matched (List.mem_of_find?_eq_some present)
      obtain ⟨key, asked, holds⟩ := slotReader_typed values items _ _ _ _ taken
      obtain ⟨place, found⟩ := List.getElem?_of_mem listed
      have numbered : number = index := by simpa using List.find?_some present
      exact ⟨key, ⟨place, slot, found, Or.inl (same.trans numbered), asked⟩, holds⟩
  · split at bound
    · split at bound
      · next slot found =>
          split at bound
          · cases bound
          · obtain ⟨key, asked, holds⟩ := hasType_of_defaultFor typed bound
            exact ⟨key, ⟨index, slot, found, Or.inr rfl, asked⟩, holds⟩
      · cases bound
    · cases bound

theorem match?_fits (values : value.Typed) (items : item.Typed) {number : Nat} {pattern : Pattern}
    {found : Match} (matched : source.match? value item tokens number pattern = some found) :
    found.Fits pattern := by
  obtain ⟨bindings, way, rfl⟩ := Option.map_eq_some_iff.1 matched
  intro index expression bound
  apply hasType_of_slotValue typed values items way
  rw [Match.slot?, Source.toMatch, List.getElem?_map] at bound
  obtain ⟨place, listed, same⟩ := Option.map_eq_some_iff.1 (Option.join_eq_some_iff.1 bound)
  rw [← (List.getElem?_eq_some_iff.1 listed).2, List.getElem_range] at same
  exact same

theorem hasType_of_fitTo {expression fitted : Expression} {target : TypeKey}
    (holds : expression.HasType expression.returnType)
    (fits : source.fitTo target expression = some fitted) : fitted.HasType target := by
  rw [Source.fitTo] at fits
  split at fits
  · next same =>
      cases fits
      rw [same] at holds
      exact holds
  · obtain ⟨convert, known, rfl⟩ := Option.map_eq_some_iff.1 fits
    exact .converted holds (typed.types.converts known)

theorem hasType_of_entryExpression? (values : value.Typed) (items : item.Typed) {target : TypeKey}
    {entry : ExpressionEntry} {patterns : List Pattern} {number : Nat} {expression : Expression}
    (makes : ∀ pattern ∈ patterns,
      pattern.Makes entry.factory fun expression => expression.HasType expression.returnType)
    (found : source.entryExpression? value item tokens target entry number patterns = some expression) :
    expression.HasType target := by
  obtain ⟨place, pattern, listed, matching, made, matched, builds, fits⟩ :=
    made_of_entryExpression? found
  have holds := makes pattern (List.mem_of_getElem? listed) matching
    (match?_fits typed values items matched) made builds
  exact hasType_of_fitTo typed holds fits

theorem hasType_of_expression? (values : value.Typed) (items : item.Typed) {target : TypeKey}
    {expression : Expression}
    (found : source.expression? value item tokens target = some expression) :
    expression.HasType target := by
  rw [Source.expression?] at found
  split at found
  · cases found
  · obtain ⟨entry, listed, found⟩ := List.exists_of_findSome?_eq_some found
    split at found
    · exact hasType_of_entryExpression? typed values items (typed.expressions entry listed) found
    · cases found

theorem hasType_of_writtenOut? {key : TypeKey} {expression : Expression}
    (found : source.writtenOut? tokens key = some expression) : expression.HasType key := by
  obtain ⟨value, parsed, rfl⟩ := Option.map_eq_some_iff.1 found
  obtain ⟨info, known, parsed⟩ := Option.bind_eq_some_iff.1 parsed
  have same : info.key = key := by simpa using List.find?_some known
  rw [← same]
  exact .literal _ (typed.types.parses info (List.mem_of_find?_eq_some known) parsed)

theorem hasType_of_fromString? {key : TypeKey} {expression : Expression}
    (found : source.fromString? tokens key = some expression) : expression.HasType key := by
  unfold Source.fromString? at found
  split at found
  · split at found
    · obtain ⟨value, converted, rfl⟩ := Option.map_eq_some_iff.1 found
      exact .literal _ (TypeRegistry.key_of_convert typed.types.converts converted)
    · cases found
  · cases found

theorem valueWith_typed (values : value.Typed) (items : item.Typed) :
    ValueReader.Typed (source.valueWith value item) := by
  intro tokens slot key expression found
  rw [Source.valueWith] at found
  split at found
  · cases found
  · split at found
    · next here =>
        cases found
        exact hasType_of_writtenOut? typed here
    · split at found
      · next here =>
          cases found
          exact hasType_of_fromString? typed here
      · split at found
        · cases found
        · exact hasType_of_expression? typed values items found

omit typed in
theorem noValue_typed : ValueReader.Typed Source.noValue := by
  intro tokens slot key expression found
  cases found

/-- At any depth, what is read for a slot is of the type that the slot asks for. -/
theorem valueAt_typed (levels : Nat) : ValueReader.Typed (source.valueAt levels) := by
  induction levels using Source.valueAt.induct with
  | case1 => exact noValue_typed
  | case2 => exact valueWith_typed typed noValue_typed noValue_typed
  | case3 levels below deeper => exact valueWith_typed typed below deeper

end Reading

/-- Every match of a session fits its pattern. -/
theorem Session.match?_fits {session : Session} (typed : session.source.registries.Typed)
    {number : Nat} {pattern : Pattern} {found : Match}
    (matched : session.match? number pattern = some found) : found.Fits pattern :=
  Parsing.match?_fits typed (valueAt_typed typed _) (valueAt_typed typed _) matched

/-- In registries that keep to types, a line is read as an effect that is good if every factory makes
good effects of fitting matches. -/
theorem searchEffect_of_makes {registries : Registries} (typed : registries.Typed) {world : World}
    {line : String} {options : ParseOptions} {good : Effect → Prop} {effect : Effect}
    (makes : ∀ entry ∈ registries.grammar.effects, ∀ pattern ∈ entry.patterns,
      pattern.Makes entry.factory good)
    (read : (registries.searchEffect world line options).effect? = some effect) : good effect := by
  rw [searchEffect_effect?] at read
  obtain ⟨candidate, listed, made⟩ := List.exists_of_findSome?_eq_some read
  obtain ⟨entry, pattern⟩ := of_mem_effectCandidates listed
  obtain ⟨found, matched, made⟩ := Option.bind_eq_some_iff.1 made
  have fits : found.Fits candidate.2.2 :=
    @Session.match?_fits (Session.ofText registries world options line) typed _ _ _ matched
  exact makes _ entry _ pattern found fits effect made

end Parsing

end ScriptBridge
