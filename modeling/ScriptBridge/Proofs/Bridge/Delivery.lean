import ScriptBridge.Bridge
import ScriptBridge.Proofs.Dispatch.Course
/-!
What reaches scripts from a bus. A bridge may be installed on its bus any number of times, between
publications and acts of the host. Installing subscribes the earliest registered wrapper of each native
type and no other, and installing again changes nothing. Main statement: a native event that is published
from then on is wrapped by that wrapper, once, and the new event goes to exactly the handlers of its
lineage, whatever became of the events before it.
-/

namespace ScriptBridge

/-- The earliest of the entries that wrap native events under a key. -/
def ownerIn? (entries : List WrapperEntry) (native : TypeKey) : Option WrapperEntry :=
  entries.find? (·.native? = some native)

theorem ownerIn?_append_singleton (entries : List WrapperEntry) (entry : WrapperEntry)
    (native : TypeKey) :
    ownerIn? (entries ++ [entry]) native
      = (ownerIn? entries native).or (if entry.native? = some native then some entry else none) := by
  rw [ownerIn?, List.find?_append, ownerIn?, List.find?_singleton]
  simp

/-- One more entry changes nothing for native types that are owned already. -/
theorem ownerIn?_append_of_owned {entries : List WrapperEntry} {entry : WrapperEntry}
    (owned : ∀ native, entry.native? = some native → (ownerIn? entries native).isSome)
    (native : TypeKey) : ownerIn? (entries ++ [entry]) native = ownerIn? entries native := by
  rw [ownerIn?_append_singleton]
  split
  · next wraps =>
      obtain ⟨owner, found⟩ := Option.isSome_iff_exists.1 (owned native wraps)
      rw [found]
      rfl
  · exact Option.or_none

theorem ownerIn?_eq_none {entries : List WrapperEntry} {native : TypeKey}
    (unwrapped : ∀ entry ∈ entries, entry.native? ≠ some native) : ownerIn? entries native = none := by
  rw [ownerIn?, List.find?_eq_none]
  intro entry listed
  simpa using unwrapped entry listed

theorem ownerIn?_of_earliest {before : List WrapperEntry} {entry : WrapperEntry} {native : TypeKey}
    (after : List WrapperEntry) (wraps : entry.native? = some native)
    (earliest : ∀ earlier ∈ before, earlier.native? ≠ some native) :
    ownerIn? (before ++ entry :: after) native = some entry := by
  rw [ownerIn?, List.find?_append, List.find?_eq_none.2 (by simpa using earliest),
    List.find?_cons_of_pos (by simpa using wraps)]
  rfl

/-- Going through the entries again finds nobody else. -/
theorem ownerIn?_append_self (entries : List WrapperEntry) (native : TypeKey) :
    ownerIn? (entries ++ entries) native = ownerIn? entries native := by
  rw [ownerIn?, List.find?_append, ownerIn?, Option.or_self]

/-- The callbacks under a key that bridge to the earliest of the entries: one, if there is such an entry. -/
def subscriptionsFor (context : BridgeContext) (entries : List WrapperEntry) (native : TypeKey) :
    List (NativeEvent → Reaction NativeEvent Scene) :=
  ((ownerIn? entries native).bind fun entry =>
    entry.source.map fun source =>
      Bridge.callback context entry.wrapper source.construct).toList

theorem subscriptionsFor_of_none {context : BridgeContext} {entries : List WrapperEntry} {native : TypeKey}
    (unowned : ownerIn? entries native = none) : subscriptionsFor context entries native = [] := by
  rw [subscriptionsFor, unowned, Option.bind_none, Option.toList_none]

theorem subscriptionsFor_of_some {context : BridgeContext} {entries : List WrapperEntry} {native : TypeKey}
    {entry : WrapperEntry} {source : WrapperSource} (owned : ownerIn? entries native = some entry)
    (present : entry.source = some source) :
    subscriptionsFor context entries native
      = [Bridge.callback context entry.wrapper source.construct] := by
  rw [subscriptionsFor, owned, Option.bind_some, present, Option.map_some, Option.toList_some]

/-- Of the entries that were gone through, each native type is owned by the earliest, and nothing else is
subscribed on the bus. -/
structure Serves (context : BridgeContext) (entries : List WrapperEntry) (bridge : Bridge)
    (bus : NativeBus) : Prop where
  context_eq : bridge.context = context
  owner : ∀ native, bridge.owners.get? native = (ownerIn? entries native).map WrapperEntry.wrapper
  callbacks : ∀ native, bus.callbacks native = subscriptionsFor context entries native

namespace Serves

variable {context : BridgeContext} {entries : List WrapperEntry} {bridge : Bridge} {bus : NativeBus}

/-- Which entries were gone through counts only as far as it decides on the owners. -/
theorem congr {others : List WrapperEntry} (serves : Serves context entries bridge bus)
    (same : ∀ native, ownerIn? others native = ownerIn? entries native) :
    Serves context others bridge bus where
  context_eq := serves.context_eq
  owner native := by rw [same, serves.owner]
  callbacks native := by rw [subscriptionsFor, same, serves.callbacks, subscriptionsFor]

/-- A warning is no subscription. -/
theorem warnOnce {current : Installing} {wrapper : TypeKey} {enabled : Bool} {warning : Warning}
    (serves : Serves context entries current.bridge current.run.bus) :
    Serves context entries (Bridge.warnOnce current wrapper enabled warning).bridge
      (Bridge.warnOnce current wrapper enabled warning).run.bus := by
  rw [Bridge.warnOnce]
  split
  · exact serves
  · exact ⟨serves.context_eq, serves.owner, serves.callbacks⟩

/-- The first that wraps a native type comes to own it, and is subscribed. -/
theorem subscribe {entry : WrapperEntry} {source : WrapperSource}
    (serves : Serves context entries bridge bus) (present : entry.source = some source)
    (unowned : ownerIn? entries source.native = none) :
    Serves context (entries ++ [entry])
      { bridge with owners := bridge.owners.insert source.native entry.wrapper }
      (bus.subscribe source.native (Bridge.callback bridge.context entry.wrapper source.construct)) := by
  have wraps : entry.native? = some source.native := by simp [WrapperEntry.native?, present]
  refine ⟨serves.context_eq, ?_, ?_⟩
  · intro native
    rw [Table.get?_insert, ownerIn?_append_singleton, wraps]
    by_cases same : source.native = native
    · subst same
      rw [if_pos rfl, if_pos rfl, unowned]
      rfl
    · rw [if_neg same, if_neg (by simpa using same), Option.or_none, serves.owner]
  · intro native
    rw [Bus.callbacks_subscribe, subscriptionsFor, ownerIn?_append_singleton, wraps]
    by_cases same : source.native = native
    · subst same
      rw [if_pos rfl, if_pos rfl, serves.callbacks, subscriptionsFor_of_none unowned,
        serves.context_eq]
      simp [unowned, present]
    · rw [if_neg same, if_neg (by simpa using same), Option.or_none, serves.callbacks]
      rfl

/-- An entry is subscribed if it is the first for its native type, and passed over otherwise. -/
theorem installEntry {current : Installing} (entry : WrapperEntry)
    (serves : Serves context entries current.bridge current.run.bus) :
    Serves context (entries ++ [entry]) (Bridge.installEntry current entry).bridge
      (Bridge.installEntry current entry).run.bus := by
  rw [Bridge.installEntry]
  split
  · next declared =>
      refine Serves.congr serves.warnOnce (ownerIn?_append_of_owned ?_)
      intro native wraps
      simp [WrapperEntry.native?, declared] at wraps
  · next source present =>
      have owner := serves.owner source.native
      split
      · next known =>
          have owned : ∀ native, entry.native? = some native → (ownerIn? entries native).isSome := by
            intro native wraps
            rw [WrapperEntry.native?, present, Option.map_some, Option.some.injEq] at wraps
            rw [← wraps, ← Option.isSome_map, ← owner, known]
            rfl
          split
          · exact serves.congr (ownerIn?_append_of_owned owned)
          · exact Serves.congr serves.warnOnce (ownerIn?_append_of_owned owned)
      · next free =>
          rw [free] at owner
          exact serves.subscribe present (Option.map_eq_none_iff.1 owner.symm)

theorem foldl_installEntry {current : Installing} (later : List WrapperEntry)
    (serves : Serves context entries current.bridge current.run.bus) :
    Serves context (entries ++ later) (later.foldl Bridge.installEntry current).bridge
      (later.foldl Bridge.installEntry current).run.bus := by
  induction later generalizing entries current with
  | nil =>
      rw [List.append_nil]
      exact serves
  | cons entry rest ih =>
      have next := ih (serves.installEntry entry)
      rw [List.append_assoc, List.singleton_append] at next
      exact next

end Serves

/-- What a host does with a bridge: it installs the bridge on its bus, publishes native events there, and
acts on the scene itself. -/
inductive HostStep where
  | install
  | publish (native : TypeKey) (event : NativeEvent)
  | act (change : Scene → Scene)

/-- A bridge and the bus that it is installed on. -/
structure Bridged where
  bridge : Bridge
  run : NativeRun

/-- These steps lead from a new bridge and a bus without subscribers to this state. -/
inductive LeadTo (context : BridgeContext) : List HostStep → Bridged → Prop where
  | start (warns : Bool) (scene : Scene) :
      LeadTo context []
        { bridge := { context, warnsUnbridged := warns }, run := { bus := {}, state := scene } }
  | install {steps : List HostStep} {reached : Bridged} (led : LeadTo context steps reached) :
      LeadTo context (steps ++ [.install])
        { bridge := (reached.bridge.install reached.run).bridge
          run := (reached.bridge.install reached.run).run }
  | publish {steps : List HostStep} {reached : Bridged} (led : LeadTo context steps reached)
      {native : TypeKey} {event : NativeEvent} {depth called : Nat} {after : NativeRun}
      (published : BusRun.publish depth native event reached.run = some (called, after)) :
      LeadTo context (steps ++ [.publish native event]) { reached with run := after }
  | act {steps : List HostStep} {reached : Bridged} (led : LeadTo context steps reached)
      (change : Scene → Scene) :
      LeadTo context (steps ++ [.act change])
        { reached with run := { reached.run with state := change reached.run.state } }

section Publications

variable {context : BridgeContext} {run : NativeRun} {native : TypeKey}

theorem publish_of_nobody (depth : Nat) (event : NativeEvent) (nobody : run.bus.callbacks native = []) :
    BusRun.publish (depth + 1) native event run = some (0, run) := by
  rw [BusRun.publish]
  simp only [nobody]
  rfl

/-- The callback of a bridge acts on the scene and leaves the bus as it is. -/
theorem publish_of_callback (depth : Nat) (event : NativeEvent) {wrapper : TypeKey}
    {construct : Constructor}
    (subscribed : run.bus.callbacks native = [Bridge.callback context wrapper construct]) :
    BusRun.publish (depth + 1) native event run
      = some (1, { run with state := Bridge.deliver context wrapper construct event run.state }) := by
  rw [BusRun.publish]
  simp only [subscribed]
  rfl

theorem subscriptionsFor_cases (context : BridgeContext) (entries : List WrapperEntry)
    (native : TypeKey) :
    subscriptionsFor context entries native = []
      ∨ ∃ wrapper construct,
          subscriptionsFor context entries native = [Bridge.callback context wrapper construct] := by
  rw [subscriptionsFor]
  cases ownerIn? entries native with
  | none => exact Or.inl rfl
  | some owner =>
      cases present : owner.source with
      | none => simp [present]
      | some source => exact Or.inr ⟨owner.wrapper, source.construct, by simp [present]⟩

theorem bus_of_publish {entries : List WrapperEntry} {event : NativeEvent} {depth called : Nat}
    {after : NativeRun}
    (subscribed : run.bus.callbacks native = subscriptionsFor context entries native)
    (published : BusRun.publish depth native event run = some (called, after)) :
    after.bus = run.bus := by
  cases depth with
  | zero => cases published
  | succ depth =>
      rcases subscriptionsFor_cases context entries native with nobody | ⟨wrapper, construct, one⟩
      · rw [publish_of_nobody depth event (subscribed.trans nobody)] at published
        cases published
        rfl
      · rw [publish_of_callback depth event (subscribed.trans one)] at published
        cases published
        rfl

end Publications

/-- Once a bridge was installed, it serves all registered wrappers, however often that was. -/
theorem LeadTo.serves {context : BridgeContext} {steps : List HostStep} {reached : Bridged}
    (led : LeadTo context steps reached) :
    ∃ entries, Serves context entries reached.bridge reached.run.bus
      ∧ (entries = [] ∨ entries = context.registries.wrappers.entries)
      ∧ (HostStep.install ∈ steps → entries = context.registries.wrappers.entries) := by
  induction led with
  | start warns scene =>
      refine ⟨[], ⟨rfl, fun _ => rfl, fun _ => rfl⟩, Or.inl rfl, ?_⟩
      intro impossible
      cases impossible
  | @install steps reached led ih =>
      obtain ⟨entries, serves, which, -⟩ := ih
      let all := context.registries.wrappers.entries
      have again : Serves context (entries ++ all) (reached.bridge.install reached.run).bridge
          (reached.bridge.install reached.run).run.bus := by
        rw [Bridge.install, serves.context_eq]
        exact Serves.foldl_installEntry all serves
      refine ⟨all, again.congr ?_, Or.inr rfl, fun _ => rfl⟩
      intro native
      rcases which with rfl | rfl
      · rfl
      · exact (ownerIn?_append_self all native).symm
  | @publish steps reached led native event depth called after published ih =>
      obtain ⟨entries, serves, which, all⟩ := ih
      refine ⟨entries, ?_, which, ?_⟩
      · rw [bus_of_publish (serves.callbacks native) published]
        exact serves
      · intro listed
        exact all (by simpa using listed)
  | act led change ih =>
      obtain ⟨entries, serves, which, all⟩ := ih
      refine ⟨entries, serves, which, ?_⟩
      intro listed
      exact all (by simpa using listed)

/-- The scene that is left when an event has gone to exactly the handlers of its lineage, to each once and
in their order. -/
def Handled (handlers : HandlerTable Scene) (wrappers : WrapperRegistry) (event : Event)
    (scene final : Scene) : Prop :=
  ∃ (places : List Nat) (entries : List (HandlerEntry Scene)) (visits : List Visit) (last : Event),
    (∀ place, place ∈ places
      ↔ ∃ entry, handlers.entries[place]? = some entry ∧ entry.key ∈ wrappers.lineage event.key)
    ∧ places.Nodup
    ∧ places.Pairwise handlers.RunsBefore
    ∧ entries.map some = places.map (handlers.entries[·]?)
    ∧ Course entries event scene visits last final

theorem handled_of_dispatch (handlers : HandlerTable Scene) (wrappers : WrapperRegistry)
    (event : Event) (scene : Scene) :
    Handled handlers wrappers event scene ((handlers.build wrappers).dispatch event scene).state := by
  obtain ⟨visits, course, -⟩ := foldl_runEntry_course
    ((handlers.build wrappers).handlersFor event.key) { report := {}, event, state := scene }
  refine ⟨handlers.runningOrder (wrappers.lineage event.key), _, visits, _, ?_, ?_, ?_, ?_, course⟩
  · intro place
    exact HandlerTable.mem_runningOrder place _
  · exact HandlerTable.nodup_runningOrder _
  · exact HandlerTable.pairwise_runningOrder _
  · exact map_handlersFor handlers wrappers event.key

/-- New events have a flag of their own, which nobody has set. -/
theorem WrapperSource.isCancelled_construct {source : WrapperSource} {native : NativeEvent}
    {wrapped : Event} (built : source.construct native = some wrapped) :
    wrapped.isCancelled = false := by
  obtain ⟨occurrence, -, rfl⟩ := Option.map_eq_some_iff.1 built
  exact Bool.and_false _

/-- After any history in which a bridge was installed on a bus at least once, a native event that is
published reaches scripts exactly once, through the earliest registered wrapper of its key, or not at all
if there is none or its constructor does not take the event. The wrapper is a new event that is not
cancelled, and it goes to exactly the handlers of its lineage. Nothing else is subscribed on the bus, be
it for declared events or for later wrappers of the same key. -/
theorem delivered_once (sealedContext : SealedContext) {steps : List HostStep} {reached : Bridged}
    (led : LeadTo sealedContext.finish steps reached) (installed : HostStep.install ∈ steps) (depth : Nat)
    (native : TypeKey) (event : NativeEvent) :
    let wrappers := sealedContext.registries.wrappers
    let run := reached.run
    let published := BusRun.publish (depth + 1) native event run
    ((∀ entry ∈ wrappers.entries, entry.native? ≠ some native) →
        run.bus.callbacks native = [] ∧ published = some (0, run))
      ∧ ∀ before entry after source, wrappers.entries = before ++ entry :: after →
          entry.source = some source → source.native = native →
          (∀ earlier ∈ before, earlier.native? ≠ some native) →
        run.bus.callbacks native
            = [Bridge.callback sealedContext.finish entry.wrapper source.construct]
          ∧ (source.construct event = none →
              published
                = some (1, { run with state := Journaled.warn (.rejected entry.wrapper) run.state }))
          ∧ ∀ wrapped, source.construct event = some wrapped →
              let scene := (sealedContext.finish.dispatch wrapped run.state).state
              wrapped.isCancelled = false ∧ published = some (1, { run with state := scene })
                ∧ Handled sealedContext.handlers wrappers wrapped run.state scene := by
  intro wrappers run published
  obtain ⟨entries, serves, -, all⟩ := led.serves
  rw [all installed] at serves
  have subscribed := serves.callbacks native
  constructor
  · intro unwrapped
    have nobody : run.bus.callbacks native = [] :=
      subscribed.trans (subscriptionsFor_of_none (ownerIn?_eq_none unwrapped))
    exact ⟨nobody, publish_of_nobody depth event nobody⟩
  · intro before entry after source listed present same earliest
    have wraps : entry.native? = some native := by simp [WrapperEntry.native?, present, same]
    have owned : ownerIn? wrappers.entries native = some entry :=
      listed ▸ ownerIn?_of_earliest after wraps earliest
    have one := subscribed.trans (subscriptionsFor_of_some owned present)
    have delivers := publish_of_callback depth event one
    refine ⟨one, ?_, ?_⟩
    · intro rejected
      rw [Bridge.deliver, rejected] at delivers
      exact delivers
    · intro wrapped accepted
      rw [Bridge.deliver, accepted] at delivers
      exact ⟨source.isCancelled_construct accepted, delivers,
        handled_of_dispatch sealedContext.handlers wrappers wrapped run.state⟩

/-- A wrapper of greetings under some name. -/
def greetingEntry (name : String) : WrapperEntry where
  name
  wrapper := .named name
  source := some
    { native := .named "Hello"
      wrap
        | .custom _ content => some (.custom { path := name, name, cancellable := true } content)
        | _ => none }
  patterns := []
  bases := []
  description := none

/-- A context in which two wrappers claim greetings. -/
def rivals : SealedContext where
  registries :=
    { types := {}
      values :=
        { getters := {}
          wrappers := { entries := [greetingEntry "first", greetingEntry "second"] } }
      grammar := {} }
  handlers := {}

/-- Of two rivals the first gets a greeting, and gets it once, also after a second installation. -/
theorem delivered_once_to_first_rival :
    ∃ reached, LeadTo rivals.finish [.install, .install] reached
      ∧ ∃ after, BusRun.publish 1 (.named "Hello") (.custom "Hello" "hi") reached.run
          = some (1, after) := by
  have start := @LeadTo.start rivals.finish true { world := { bodies := [] } }
  have led := start.install.install
  obtain ⟨-, delivers⟩ := delivered_once rivals led (by simp) 0 (.named "Hello") (.custom "Hello" "hi")
  obtain ⟨-, -, accepts⟩ :=
    delivers [] (greetingEntry "first") [greetingEntry "second"] _ rfl rfl rfl (by simp)
  obtain ⟨-, published, -⟩ := accepts _ rfl
  exact ⟨_, led, _, published⟩

end ScriptBridge
