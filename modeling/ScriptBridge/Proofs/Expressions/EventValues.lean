import Mathlib.Data.List.Forall2
import Mathlib.Data.List.Induction
import ScriptBridge.Proofs.Parsing.Resolution
import ScriptBridge.Proofs.Registration.Closing
/-!
Values of events. Which expressions for them a script may use is decided when it is read, by the key of the
event at hand; which value they have is found out when an event is there, by getters that may decline. Main
statement: both follow the same lineage, so that what is refused to a script would never have had a value, and
what is granted has the value that the event has, or none.
-/

namespace ScriptBridge

/-! ### Registered getters -/

/-- A getter as it is registered: for the events under a key, and for a type of values. -/
structure GetterEntry where
  event : TypeKey
  type : TypeKey
  read : Getter

/-- The table that getters make, registered one after the other. -/
def GetterTable.ofEntries (entries : List GetterEntry) : GetterTable :=
  entries.foldl (fun table entry => table.insert (entry.event, entry.type) entry.read) {}

/-- The getter that was registered last for the events under a key and a type of values. -/
def lastGetter? (entries : List GetterEntry) (event type : TypeKey) : Option Getter :=
  (entries.filter fun entry => entry.event = event ∧ entry.type = type).getLast?.map (·.read)

theorem GetterTable.ofEntries_concat (entries : List GetterEntry) (entry : GetterEntry) :
    ofEntries (entries ++ [entry]) = (ofEntries entries).insert (entry.event, entry.type) entry.read := by
  rw [ofEntries, List.foldl_append, List.foldl_cons, List.foldl_nil]
  rfl

theorem lastGetter?_concat (entries : List GetterEntry) (entry : GetterEntry) (event type : TypeKey) :
    lastGetter? (entries ++ [entry]) event type
      = if (entry.event, entry.type) = (event, type) then some entry.read
        else lastGetter? entries event type := by
  rw [lastGetter?, List.filter_append, lastGetter?]
  by_cases named : entry.event = event ∧ entry.type = type <;> simp [named]

/-- What a table holds for a pair is what was registered last for it. -/
theorem GetterTable.get?_ofEntries (entries : List GetterEntry) (event type : TypeKey) :
    (ofEntries entries).get? (event, type) = lastGetter? entries event type := by
  induction entries using List.reverseRecOn with
  | nil => rfl
  | append_singleton entries entry ih =>
      rw [ofEntries_concat, Table.get?_insert, ih, lastGetter?_concat]

/-! ### Looking along a lineage -/

/-- How a value is looked for along keys, nearest first. A key without a getter for the type is passed over,
and so is one whose getter declines; the first getter that has a value for the event answers. -/
inductive Answers (entries : List GetterEntry) (type : TypeKey) (world : World) (event : Event) :
    List TypeKey → Option Value → Prop where
  | exhausted : Answers entries type world event [] none
  | lacking {key : TypeKey} {keys : List TypeKey} {outcome : Option Value}
      (without : lastGetter? entries key type = none)
      (others : Answers entries type world event keys outcome) :
      Answers entries type world event (key :: keys) outcome
  | declined {key : TypeKey} {keys : List TypeKey} {outcome : Option Value} {read : Getter}
      (last : lastGetter? entries key type = some read) (declines : read world event = none)
      (others : Answers entries type world event keys outcome) :
      Answers entries type world event (key :: keys) outcome
  | answered {key : TypeKey} {keys : List TypeKey} {value : Value} {read : Getter}
      (last : lastGetter? entries key type = some read) (answers : read world event = some value) :
      Answers entries type world event (key :: keys) (some value)

section

variable {entries : List GetterEntry} {type : TypeKey} {world : World} {event : Event}

theorem Answers.findSome? (keys : List TypeKey) :
    Answers entries type world event keys
      ((keys.filterMap (lastGetter? entries · type)).findSome? (· world event)) := by
  induction keys with
  | nil => exact .exhausted
  | cons key keys ih =>
      rw [List.filterMap_cons]
      cases last : lastGetter? entries key type with
      | none => exact .lacking last ih
      | some read =>
          cases answers : read world event with
          | none =>
              rw [List.findSome?_cons_of_isNone (by rw [answers]; rfl)]
              exact .declined last answers ih
          | some value =>
              rw [List.findSome?_cons_of_isSome (by rw [answers]; rfl), answers]
              exact .answered last answers

/-- Looking along the same keys twice comes to the same. -/
theorem Answers.unique {keys : List TypeKey} {outcome other : Option Value}
    (answers : Answers entries type world event keys outcome)
    (answers' : Answers entries type world event keys other) : outcome = other := by
  induction answers with
  | exhausted =>
      cases answers'
      rfl
  | lacking without others ih => cases answers' <;> simp_all
  | declined last declines others ih => cases answers' <;> simp_all
  | answered last answers => cases answers' <;> simp_all

end

namespace EventValues

section

variable {values : EventValues} {event type : TypeKey}

/-- Values are provided where a key of the lineage has a getter. -/
theorem provides_iff : values.provides event type = true
    ↔ ∃ key ∈ values.wrappers.lineage event, (values.getters.get? (key, type)).isSome = true := by
  rw [provides, List.any_eq_true]
  rfl

/-- Where nothing is provided there are no getters to ask. -/
theorem gettersFor_of_not_provides (refused : values.provides event type = false) :
    values.gettersFor event type = [] := by
  rw [gettersFor, List.filterMap_eq_nil_iff]
  intro key listed
  have without : ¬ (values.getters.get? (key, type)).isSome = true := fun found => by
    rw [provides_iff.2 ⟨key, listed, found⟩] at refused
    cases refused
  rwa [Option.isSome_iff_ne_none, ne_eq, not_not] at without

end

/-- What getters tell of an event is found by looking along its lineage. -/
theorem answers_get? (entries : List GetterEntry) (wrappers : WrapperRegistry) (type : TypeKey)
    (world : World) (event : Event) :
    Answers entries type world event (wrappers.lineage event.key)
      (EventValues.get? { getters := .ofEntries entries, wrappers } type world event) := by
  have along : Answers entries type world event (wrappers.lineage event.key) _ :=
    .findSome? (wrappers.lineage event.key)
  simpa only [EventValues.get?, gettersFor, GetterTable.get?_ofEntries] using along

/-- What a script is granted of the event's values of a type. Where no event is known nothing is; where one is
known, an expression is refused just if none of its getters is there, and then no event of that type has a
value; and one that is granted is of the type, and its values are those that an event has: one or none. -/
structure Foretold (values : EventValues) (ambient : Option TypeKey) (type : TypeKey)
    (granted : Option Expression) : Prop where
  unknown : ambient = none → granted = none
  refused_iff : ∀ event, ambient = some event → (granted = none ↔ values.provides event type = false)
  barren : ∀ world (event : Event), ambient = some event.key → granted = none →
    values.get? type world event = none
  exact : ∀ expression, granted = some expression → expression.returnType = type
    ∧ ∀ world event, expression.values world event = .ok (values.get? type world event).toList
      ∧ expression.value? world event = .ok (values.get? type world event)

variable {values : EventValues}

theorem get?_of_not_provides {type : TypeKey} {event : Event}
    (refused : values.provides event.key type = false) (world : World) :
    values.get? type world event = none := by
  rw [get?, gettersFor_of_not_provides refused, List.findSome?_nil]

theorem foretold_expression? (ambient : Option TypeKey) (type : TypeKey) (name : String) :
    values.Foretold ambient type (values.expression? ambient type name) := by
  have refused_iff (event : TypeKey) : values.expression? (some event) type name = none
      ↔ values.provides event type = false := by
    simp [expression?]
  constructor
  · rintro rfl
    rfl
  · rintro event rfl
    exact refused_iff event
  · rintro world event rfl refused
    exact get?_of_not_provides ((refused_iff event.key).1 refused) world
  · intro expression granted
    have made : expression = .eventValue type name (values.get? type) := by
      unfold expression? at granted
      split at granted
      · cases granted
      · split at granted
        · exact (Option.some.inj granted).symm
        · cases granted
    subst made
    refine ⟨rfl, fun world event => ?_⟩
    have yields : (Expression.eventValue type name (values.get? type)).values world event
        = .ok (values.get? type world event).toList := by
      rw [Expression.values]
    refine ⟨yields, ?_⟩
    rw [Expression.value?, yields]
    cases values.get? type world event <;> rfl

end EventValues

/-! ### The expressions of scripts -/

/-- What the expression for the event's value of a type is, whatever its pattern has been compiled to. -/
structure TypeInfo.IsEventEntry (values : EventValues) (info : TypeInfo) (entry : ExpressionEntry) :
    Prop where
  name : entry.name = "event-" ++ info.name
  called : entry.patterns.map (·.source) = ["[the] [event-]" ++ info.name]
  returnType : entry.returnType = info.key
  factory : ∀ found, entry.factory found
    = values.expression? found.options.event info.key info.name

/-- It is so as well when the slots of its patterns are changed. -/
theorem TypeInfo.IsEventEntry.mapSlots {values : EventValues} {info : TypeInfo} {entry : ExpressionEntry}
    (describes : info.IsEventEntry values entry) (change : Slot → Slot) :
    info.IsEventEntry values (entry.mapSlots change) where
  name := describes.name
  called := by
    rw [← describes.called, ExpressionEntry.mapSlots, List.map_map]
    rfl
  returnType := describes.returnType
  factory := describes.factory

namespace Grammar

variable {values : EventValues} {grammar extended : Grammar}

theorem addEventValue_shape {info : TypeInfo} (added : grammar.addEventValue values info = .ok extended) :
    ∃ entry, extended.expressions = grammar.expressions ++ [entry]
      ∧ info.IsEventEntry values entry := by
  rw [addEventValue, addExpression] at added
  split at added
  · cases added
  · next patterns compiles =>
      cases added
      refine ⟨_, rfl, rfl, ?_, rfl, fun found => rfl⟩
      obtain ⟨pattern, compiled, made⟩ := bind_eq_ok compiles
      cases made
      exact congrArg (fun source => [source]) (Pattern.reads_of_compile compiled).2.2

/-- Behind all others stands one entry for each type that defaults to its event value. -/
theorem addEventValues_shape {infos : List TypeInfo}
    (added : addEventValues values grammar infos = .ok extended) :
    ∃ generated, extended.expressions = grammar.expressions ++ generated
      ∧ List.Forall₂ (TypeInfo.IsEventEntry values) (infos.filter (·.defaultsToEvent)) generated := by
  induction infos generalizing grammar with
  | nil =>
      cases added
      exact ⟨[], (List.append_nil _).symm, .nil⟩
  | cons info rest ih =>
      rw [addEventValues] at added
      split at added
      · next default =>
          split at added
          · cases added
          · next grown here =>
              obtain ⟨entry, one, described⟩ := addEventValue_shape here
              obtain ⟨generated, others, all⟩ := ih added
              rw [List.filter_cons_of_pos (TypeInfo.defaultsToEvent_iff.2 default)]
              refine ⟨entry :: generated, ?_, .cons described all⟩
              rw [others, one, List.append_assoc, List.singleton_append]
      · next default =>
          rw [List.filter_cons_of_neg (mt TypeInfo.defaultsToEvent_iff.1 default)]
          exact ih added

/-- Completing a grammar changes nothing about them but their patterns. -/
theorem complete_shape {types : TypeRegistry} (completes : grammar.complete types values = .ok extended) :
    ∃ registered generated, extended.expressions = registered ++ generated
      ∧ registered = grammar.expressions.map (·.mapSlots types.slotType.settle)
      ∧ List.Forall₂ (TypeInfo.IsEventEntry values) (types.types.filter (·.defaultsToEvent))
        generated := by
  obtain ⟨grown, added, completes⟩ := bind_eq_ok completes
  obtain ⟨effects, -, completes⟩ := bind_eq_ok completes
  obtain ⟨expressions, resolves, made⟩ := bind_eq_ok completes
  cases made
  obtain ⟨generated, behind, described⟩ := addEventValues_shape added
  rw [resolveExpressions_eq] at resolves
  obtain ⟨-, rfl⟩ := refuseFirst_eq_ok_iff.1 resolves
  refine ⟨_, generated.map (·.mapSlots types.slotType.settle), ?_, rfl, ?_⟩
  · rw [behind, List.map_append]
  · rw [List.forall₂_map_right_iff]
    exact described.imp fun info entry describes => describes.mapSlots _

end Grammar

/-- The lineages do not change when the patterns of events are resolved. -/
theorem WrapperRegistry.lineage_resolve {registry resolved : WrapperRegistry} {lookup : TypeLookup}
    (resolves : registry.resolve lookup = .ok resolved) (event : TypeKey) :
    resolved.lineage event = registry.lineage event := by
  obtain ⟨entries, resolved_entries, rfl⟩ := map_eq_ok resolves
  rw [resolveEntries_eq] at resolved_entries
  obtain ⟨-, rfl⟩ := refuseFirst_eq_ok_iff.1 resolved_entries
  have found : get? { registry with entries := registry.entries.map (·.mapSlots lookup.settle) } event
      = (registry.get? event).map (·.mapSlots lookup.settle) := by
    rw [get?, List.find?_map]
    rfl
  rw [lineage, found, lineage]
  cases registry.get? event <;> rfl

namespace Registrar

variable {registrar : Registrar} {context : SealedContext}

/-- What closing leaves of what was registered, as far as values of events go. -/
theorem values_of_close (closes : registrar.close = .ok context) :
    context.registries.types = registrar.types
      ∧ context.registries.values.getters = registrar.getters
      ∧ (∀ event, context.registries.wrappers.lineage event = registrar.wrappers.lineage event)
      ∧ registrar.grammar.complete registrar.types context.registries.values
        = .ok context.registries.grammar := by
  obtain ⟨registries, frozen, rfl⟩ := map_eq_ok closes
  obtain ⟨wrappers, wrapped, frozen⟩ := bind_eq_ok frozen
  obtain ⟨grammar, completes, made⟩ := bind_eq_ok frozen
  cases made
  exact ⟨rfl, rfl, WrapperRegistry.lineage_resolve wrapped, completes⟩

end Registrar

/-- The slots of a type that defaults to the event's value are granted what such expressions are. -/
theorem Parsing.Source.foretold_defaultFor {source : Source} {slot : Slot} {key : TypeKey} {info : TypeInfo}
    (asked : slot.key = some key) (known : source.registries.types.get? key = some info)
    (default : info.defaultsToEvent = true) :
    source.registries.values.Foretold source.options.event key (source.defaultFor slot) := by
  have same : info.key = key := by simpa using List.find?_some known
  rw [defaultFor, asked, Option.bind_some, known]
  simp only [TypeInfo.defaultsToEvent_iff.1 default, same]
  exact EventValues.foretold_expression? _ key info.name

/-- A match keeps the circumstances of its session. -/
theorem Parsing.Session.options_of_match? {session : Session} {number : Nat} {pattern : Pattern}
    {found : Match} (matched : session.match? number pattern = some found) :
    found.options = session.source.options := by
  obtain ⟨bindings, -, rfl⟩ := Option.map_eq_some_iff.1 matched
  rfl

/-- Whether a script may speak of an event's value is decided soundly when it is read. Getters are registered
one after the other, the last one for a pair counting. The value of a type that an event has is the first one
that a getter along its lineage has for it; a type is provided for events just if some key of their lineage
has a getter for it; and where it is not provided, no event has a value. When the registries are closed, the
slots of a type that defaults to the event's value, and the expressions that are added for such types, one for
each behind all registered ones, ask what is provided for the event at hand. If they are refused, no such
event would have had a value; and if they are granted, their values are exactly those that events have. -/
theorem EventValues.availability_is_sound (entries : List GetterEntry) :
    (∀ (wrappers : WrapperRegistry) (type : TypeKey),
      let values : EventValues := { getters := .ofEntries entries, wrappers }
      (∀ world event outcome, values.get? type world event = outcome
        ↔ Answers entries type world event (wrappers.lineage event.key) outcome)
      ∧ (∀ event, values.provides event type = true
        ↔ ∃ key ∈ wrappers.lineage event, ∃ read, lastGetter? entries key type = some read)
      ∧ ∀ world event, values.provides event.key type = false → values.get? type world event = none)
    ∧ ∀ (registrar : Registrar) (context : SealedContext),
      registrar.getters = .ofEntries entries → registrar.close = .ok context →
      let registries := context.registries
      (registries.types = registrar.types ∧ registries.values.getters = .ofEntries entries
        ∧ ∀ event, registries.wrappers.lineage event = registrar.wrappers.lineage event)
      ∧ (∀ (source : Parsing.Source) (slot : Slot) (key : TypeKey) (info : TypeInfo),
        source.registries = registries → slot.key = some key → registries.types.get? key = some info →
        info.defaultsToEvent = true →
          registries.values.Foretold source.options.event key (source.defaultFor slot))
      ∧ ∃ registered generated, registries.grammar.expressions = registered ++ generated
        ∧ registered.map (·.name) = registrar.grammar.expressions.map (·.name)
        ∧ List.Forall₂
          (fun info entry => info.IsEventEntry registries.values entry
            ∧ ∀ (session : Parsing.Session) number pattern found, session.source.registries = registries →
                session.match? number pattern = some found →
                registries.values.Foretold session.source.options.event info.key (entry.factory found))
          (registrar.types.types.filter (·.defaultsToEvent)) generated := by
  constructor
  · intro wrappers type values
    refine ⟨fun world event outcome => ?_, fun event => ?_, ?_⟩
    · have looked := answers_get? entries wrappers type world event
      constructor
      · rintro rfl
        exact looked
      · exact looked.unique
    · simp only [provides_iff, values, GetterTable.get?_ofEntries, Option.isSome_iff_exists]
    · exact fun world event refused => get?_of_not_provides refused world
  · intro registrar context getters closes registries
    obtain ⟨types, kept, lineages, completes⟩ := Registrar.values_of_close closes
    refine ⟨⟨types, kept.trans getters, lineages⟩, ?_, ?_⟩
    · rintro source slot key info here asked known default
      rw [← here] at known ⊢
      exact Parsing.Source.foretold_defaultFor asked known default
    · obtain ⟨registered, generated, behind, same, described⟩ := Grammar.complete_shape completes
      refine ⟨registered, generated, behind, ?_, described.imp fun info entry describes => ?_⟩
      · rw [same, List.map_map]
        rfl
      · refine ⟨describes, fun session number pattern found _ matched => ?_⟩
        rw [describes.factory, Parsing.Session.options_of_match? matched]
        exact foretold_expression? _ info.key info.name

/-- Getters for the moods of events: harvests have none of their own any more, but seasons have. -/
def moods : List GetterEntry :=
  [⟨.named "Harvest", .named "Mood", fun _ _ => some (.custom "Mood" "busy")⟩,
    ⟨.named "Season", .named "Mood", fun _ _ => some (.custom "Mood" "mellow")⟩,
    ⟨.named "Harvest", .named "Mood", fun _ _ => none⟩]

/-- Harvests are weather, and weather belongs to seasons. A mood that is left out is that of the event. -/
def seasons : Registrar where
  types := { types := [{ TypeInfo.named (.named "Mood") "mood" with defaultSource := .eventValue }] }
  wrappers :=
    { entries := [⟨"harvest", .named "Harvest", none, [], [.named "Weather"], none⟩]
      interfaces := ({} : InterfaceGraph).declare (.named "Weather") [.named "Season"] }
  getters := .ofEntries moods

/-- A harvest. -/
def harvest : Event where
  occurrence := .custom ⟨"Harvest", "harvest", false⟩ "wheat"

/-- A mood that is left out. -/
def moodSlot : Slot where
  index := 0
  typeName := "mood"
  key := some (.named "Mood")

/-- Nothing is read, for events of a type. -/
def readingFor (registries : Registries) (event : TypeKey) : Parsing.Source where
  registries
  world := { bodies := [] }
  text := []
  options := { event := some event }

/-- The mood of a harvest is that of the season; for frosts, of which nothing is registered, there is none. -/
theorem EventValues.availability_is_sound_seasons :
    ∃ context, seasons.getters = .ofEntries moods ∧ seasons.close = .ok context
      ∧ (readingFor context.registries (.named "Frost")).defaultFor moodSlot = none
      ∧ ∃ expression,
        (readingFor context.registries (.named "Harvest")).defaultFor moodSlot = some expression
          ∧ expression.values { bodies := [] } harvest = .ok [.custom "Mood" "mellow"] := by
  have succeeds : seasons.close.isOk = true := by decide +kernel
  obtain ⟨context, closes⟩ : ∃ context, seasons.close = .ok context := by
    cases outcome : seasons.close with
    | error error => rw [outcome] at succeeds; cases succeeds
    | ok context => exact ⟨context, rfl⟩
  obtain ⟨looks, frozen⟩ := availability_is_sound moods
  obtain ⟨looked, provided, -⟩ := looks context.registries.wrappers (.named "Mood")
  obtain ⟨⟨types, getters, lineages⟩, granted, -⟩ := frozen seasons context rfl closes
  have same : context.registries.values
      = { getters := .ofEntries moods, wrappers := context.registries.wrappers } := by
    rw [← getters]
    rfl
  have foretold (event : TypeKey) := granted (readingFor context.registries event) moodSlot _ _ rfl rfl
    (by rw [types]; rfl) rfl
  rw [same] at foretold
  have mood : (EventValues.mk (.ofEntries moods) context.registries.wrappers).get? (.named "Mood")
      { bodies := [] } harvest = some (.custom "Mood" "mellow") := by
    have lineage : seasons.wrappers.lineage (.named "Harvest")
        = [.named "Harvest", .named "Weather", .named "Season"] := by decide +kernel
    refine (looked { bodies := [] } harvest _).2 ?_
    rw [lineages]
    show Answers _ _ _ _ (seasons.wrappers.lineage (.named "Harvest")) _
    rw [lineage]
    exact .declined rfl rfl (.lacking rfl (.answered rfl rfl))
  refine ⟨context, rfl, closes, ?_, ?_⟩
  · refine ((foretold (.named "Frost")).refused_iff _ rfl).2 ?_
    rw [Bool.eq_false_iff, ne_eq, provided, lineages]
    rintro ⟨key, listed, read, last⟩
    cases List.mem_singleton.1 listed
    cases last
  · have there := foretold (.named "Harvest")
    cases outcome : (readingFor context.registries (.named "Harvest")).defaultFor moodSlot with
    | none =>
        have none := there.barren { bodies := [] } harvest rfl outcome
        cases mood.symm.trans none
    | some expression =>
        refine ⟨expression, rfl, ?_⟩
        rw [((there.exact expression outcome).2 { bodies := [] } harvest).1, mood]
        rfl

end ScriptBridge
