import Mathlib
import ScriptBridge.Proofs.Script.Performance
import ScriptBridge.Proofs.Script.Accounting
import ScriptBridge.Startup
/-!
Scripts in a bridge that was started. Their triggers are the last handlers to be registered, script by script
and within a script by header, all of one priority. Main statement: whatever else is registered, a dispatch
runs exactly the triggers for the event's lineage, in that order, each of them whole, and reports those with
a failing effect.
-/

namespace ScriptBridge

/-- The handlers of a table in which triggers come behind all others. -/
def partsOf (others : List (HandlerEntry Scene)) (triggers : List Trigger) : List Part :=
  others.map .other ++ triggers.map .scripted

section Order

variable {table : HandlerTable Scene} {others : List (HandlerEntry Scene)} {triggers : List Trigger}

/-- The trigger at a place of such a table. -/
theorem trigger?_partsOf (place : Nat) :
    (partsOf others triggers)[place]?.bind Part.trigger?
      = if place < others.length then none else triggers[place - others.length]? := by
  rw [partsOf, List.getElem?_append, List.length_map]
  split
  · rw [List.getElem?_map]
    cases others[place]? <;> rfl
  · rw [List.getElem?_map]
    cases triggers[place - others.length]? <;> rfl

/-- A trigger stands at its place behind all others. -/
theorem entry_partsOf (holds : table.entries = (partsOf others triggers).map Part.entry) {place : Nat}
    (behind : others.length ≤ place) :
    table.entries[place]? = triggers[place - others.length]?.map Trigger.entry := by
  rw [holds, partsOf, List.map_append, List.map_map, List.map_map,
    List.getElem?_append_right (by rwa [List.length_map]), List.length_map, List.getElem?_map]
  rfl

/-- Triggers have one priority, so they run in the order of their places. -/
theorem lt_of_runsBefore (holds : table.entries = (partsOf others triggers).map Part.entry)
    {place other : Nat} (behind : others.length ≤ place) (behind_other : others.length ≤ other)
    (listed : table.entries[place]?.isSome) (listed_other : table.entries[other]?.isSome)
    (before : table.RunsBefore place other) : place < other := by
  have rank {place : Nat} (behind : others.length ≤ place) (listed : table.entries[place]?.isSome) :
      table.rankAt place = Priority.normal.rank := by
    rw [HandlerTable.rankAt]
    rw [entry_partsOf holds behind] at listed ⊢
    cases found : triggers[place - others.length]? with
    | none =>
        rw [found] at listed
        cases listed
    | some trigger => rfl
  unfold HandlerTable.RunsBefore at before
  rw [rank behind listed, rank behind_other listed_other] at before
  omega

/-- The triggers for a lineage with their places, in the order in which they were registered. -/
def placedFor (others : List (HandlerEntry Scene)) (triggers : List Trigger) (lineage : List TypeKey) :
    List (Trigger × Nat) :=
  (triggers.zipIdx others.length).filter (·.1.event ∈ lineage)

/-- The places of triggers in a running order are those of the triggers for the lineage, in the order in
which these were registered. -/
theorem filter_runningOrder (holds : table.entries = (partsOf others triggers).map Part.entry)
    (lineage : List TypeKey) :
    (table.runningOrder lineage).filter (others.length ≤ ·)
      = (placedFor others triggers lineage).map (·.2) := by
  refine List.Pairwise.eq_of_mem_iff (r := (· < ·)) ?_ ?_ ?_
  · refine List.Pairwise.imp_of_mem ?_ ((HandlerTable.pairwise_runningOrder lineage).filter _)
    intro place other listed listed_other before
    rw [List.mem_filter, HandlerTable.mem_runningOrder, decide_eq_true_eq] at listed listed_other
    obtain ⟨⟨_, found, -⟩, behind⟩ := listed
    obtain ⟨⟨_, found_other, -⟩, behind_other⟩ := listed_other
    exact lt_of_runsBefore holds behind behind_other (by rw [found]; rfl) (by rw [found_other]; rfl)
      before
  · have ascending : ((triggers.zipIdx others.length).map (·.2)).Pairwise (· < ·) := by
      rw [List.zipIdx_map_snd]
      exact List.pairwise_lt_range'
    exact ascending.sublist (List.filter_sublist.map _)
  · intro place
    rw [List.mem_filter, HandlerTable.mem_runningOrder, decide_eq_true_eq, List.mem_map]
    constructor
    · rintro ⟨⟨entry, found, within⟩, behind⟩
      rw [entry_partsOf holds behind] at found
      obtain ⟨trigger, there, rfl⟩ := Option.map_eq_some_iff.1 found
      refine ⟨(trigger, place), List.mem_filter.2 ⟨?_, decide_eq_true within⟩, rfl⟩
      exact List.mem_zipIdx_iff_le_and_getElem?_sub.2 ⟨behind, there⟩
    · rintro ⟨⟨trigger, number⟩, listed, rfl⟩
      obtain ⟨numbered, within⟩ := List.mem_filter.1 listed
      obtain ⟨behind, there⟩ := List.mem_zipIdx_iff_le_and_getElem?_sub.1 numbered
      refine ⟨⟨trigger.entry, ?_, of_decide_eq_true within⟩, behind⟩
      rw [entry_partsOf holds behind, there]
      rfl

/-- The triggers that run for a lineage are those registered for a key of it, in the order in which they
were registered, whatever other handlers run between them. -/
theorem triggers_runningOrder (holds : table.entries = (partsOf others triggers).map Part.entry)
    (lineage : List TypeKey) :
    ((table.runningOrder lineage).filterMap ((partsOf others triggers)[·]?)).filterMap Part.trigger?
      = triggers.filter (·.event ∈ lineage) := by
  have located : ∀ placed ∈ placedFor others triggers lineage,
      (partsOf others triggers)[placed.2]?.bind Part.trigger? = some placed.1 := by
    intro placed listed
    obtain ⟨behind, there⟩ :=
      List.mem_zipIdx_iff_le_and_getElem?_sub.1 (List.mem_of_mem_filter listed)
    rw [trigger?_partsOf, if_neg (Nat.not_lt.2 behind), there]
  calc ((table.runningOrder lineage).filterMap ((partsOf others triggers)[·]?)).filterMap Part.trigger?
    _ = (table.runningOrder lineage).filterMap
          fun place => (partsOf others triggers)[place]?.bind Part.trigger? := List.filterMap_filterMap
    _ = ((table.runningOrder lineage).filter (others.length ≤ ·)).filterMap
          fun place => (partsOf others triggers)[place]?.bind Part.trigger? := by
        rw [List.filterMap_filter]
        refine List.filterMap_congr fun place _ => ?_
        rw [trigger?_partsOf]
        by_cases behind : others.length ≤ place
        · rw [if_neg (Nat.not_lt.2 behind), if_pos (decide_eq_true behind)]
        · rw [if_pos (Nat.lt_of_not_le behind), if_neg (by simpa using behind)]
    _ = (placedFor others triggers lineage).filterMap
          fun placed => (partsOf others triggers)[placed.2]?.bind Part.trigger? := by
        rw [filter_runningOrder holds, List.filterMap_map]
        rfl
    _ = (placedFor others triggers lineage).map (·.1) := by
        rw [← List.filterMap_eq_map]
        exact List.filterMap_congr located
    _ = triggers.filter (·.event ∈ lineage) := by
        have all : (triggers.zipIdx others.length).map Prod.fst = triggers :=
          List.zipIdx_map_fst others.length triggers
        conv_rhs => rw [← all, List.filter_map]
        rfl

end Order

section Loading

/-- Registered triggers come behind what is registered already, and leave the registries as they are. -/
theorem SealedContext.addTriggers_eq (context : SealedContext) (triggers : List Trigger) :
    (context.addTriggers triggers).registries = context.registries
      ∧ (context.addTriggers triggers).handlers.entries
        = context.handlers.entries ++ triggers.map Trigger.entry := by
  induction triggers generalizing context with
  | nil => exact ⟨rfl, (List.append_nil _).symm⟩
  | cons trigger rest ih =>
      obtain ⟨registries, entries⟩ := ih (trigger.addTo context)
      refine ⟨registries, entries.trans ?_⟩
      rw [List.map_cons, List.append_cons]
      rfl

/-- What was loaded of a script: the triggers of its paragraphs, in the order of their headers. -/
def LoadedFrom (registries : Registries) (world : World) (script : String × String)
    (loaded : LoadedScript) : Prop :=
  loaded.name = script.1
    ∧ loaded.triggers
      = (Script.outlineOf (Script.numbered script.2)).triggers registries world script.1

/-- Scripts that are loaded one after the other add their triggers in this order, and read neither each
other's triggers nor a changed world. -/
theorem ScriptsLoading.foldl_load (scripts : List (String × String)) (loading : ScriptsLoading) :
    ∃ more,
      (scripts.foldl load loading).scripts = loading.scripts ++ more
        ∧ List.Forall₂ (LoadedFrom loading.context.registries loading.scene.world) scripts more
        ∧ (scripts.foldl load loading).context.registries = loading.context.registries
        ∧ (scripts.foldl load loading).context.handlers.entries
          = loading.context.handlers.entries
            ++ (more.flatMap LoadedScript.triggers).map Trigger.entry := by
  induction scripts generalizing loading with
  | nil => exact ⟨[], (List.append_nil _).symm, .nil, rfl, (List.append_nil _).symm⟩
  | cons script rest ih =>
      obtain ⟨more, scripts, loaded, registries, entries⟩ := ih (loading.load script)
      let here := loading.context.loadScript loading.scene script.1 script.2
      obtain ⟨same, behind⟩ := loading.context.addTriggers_eq here.script.triggers
      have kept : (loading.load script).context.registries = loading.context.registries := same
      have added : (loading.load script).context.handlers.entries
          = loading.context.handlers.entries ++ here.script.triggers.map Trigger.entry := behind
      have read : LoadedFrom loading.context.registries loading.scene.world script here.script :=
        ⟨rfl, (Script.readScript_eq ..).2⟩
      rw [kept] at loaded registries
      refine ⟨here.script :: more, ?_, .cons read loaded, registries, ?_⟩
      · rw [List.foldl_cons, scripts]
        exact List.append_assoc ..
      · rw [List.foldl_cons, entries, added, List.flatMap_cons, List.map_append, List.append_assoc]

end Loading

/-- A dispatch plays the parts for the event's lineage, of which the triggers are those for it. -/
theorem dispatch_plays {table : HandlerTable Scene} {others : List (HandlerEntry Scene)}
    {triggers : List Trigger} (holds : table.entries = (partsOf others triggers).map Part.entry)
    (wrappers : WrapperRegistry) (event : Event) (scene : Scene) :
    ∃ played : List Played,
      played.map Played.part = (table.runningOrder (wrappers.lineage event.key)).filterMap
          ((partsOf others triggers)[·]?)
        ∧ played.filterMap (·.part.trigger?)
          = triggers.filter (·.event ∈ wrappers.lineage event.key)
        ∧ Plays played event scene ((table.build wrappers).dispatch event scene).event
            ((table.build wrappers).dispatch event scene).state
        ∧ ((table.build wrappers).dispatch event scene).report = reportOf (played.map Played.visit) := by
  obtain ⟨visits, course, report⟩ := foldl_runEntry_course
    ((table.build wrappers).handlersFor event.key) { report := {}, event, state := scene }
  have handlers : (table.build wrappers).handlersFor event.key
      = ((table.runningOrder (wrappers.lineage event.key)).filterMap
          ((partsOf others triggers)[·]?)).map Part.entry := by
    rw [Dispatcher.handlersFor, HandlerTable.placesFor_build, List.map_filterMap]
    refine List.filterMap_congr fun place _ => ?_
    show table.entries[place]? = _
    rw [holds, List.getElem?_map]
  rw [handlers] at course
  obtain ⟨played, parts, rfl, plays⟩ := course.plays
  refine ⟨played, parts, ?_, ?_, ?_⟩
  · rw [← triggers_runningOrder holds, ← parts, List.filterMap_map]
    rfl
  · rw [← handlers] at plays
    exact plays
  · refine report.trans ?_
    simp [DispatchReport.extend]

/-- A bridge that was started went live with closed registries. -/
theorem Startup.goLive_of_start {startup : Startup} {host : Host} {running : Running}
    (starts : (startup.start host).result = .ok running) :
    ∃ context before, running = (startup.goLive context before).2 := by
  rw [start] at starts
  split at starts
  · cases starts
  · split at starts
    · cases starts
    · split at starts
      · cases starts
      · next scene context _ =>
          cases starts
          exact ⟨context, { host with scene }, rfl⟩

/-- Script effects run in source order, each once, whatever fails. Once a bridge was started, its handlers
are those of others and behind them the triggers of the scripts, which were loaded in order. Whatever event
is dispatched, the triggers that run are those for its lineage, by script and then by header; none of them is
passed over, each performs all of its effects on the event in order, and the report has one failure for each
of them with a failing effect, with the failures of its effects in order. -/
theorem dispatch_runs_scripts {startup : Startup} {host : Host} {running : Running}
    (starts : (startup.start host).result = .ok running) :
    ∃ (world : World) (others : List (HandlerEntry Scene)),
      let triggers := running.scripts.flatMap LoadedScript.triggers
      let table := running.context.dispatcher.table
      List.Forall₂ (LoadedFrom running.context.registries world) startup.scripts running.scripts
        ∧ table.entries = (partsOf others triggers).map Part.entry
        ∧ ∀ (event : Event) (scene : Scene),
            let lineage := running.context.registries.wrappers.lineage event.key
            let after := running.dispatch event scene
            ∃ played : List Played,
              played.map Played.part
                  = (table.runningOrder lineage).filterMap ((partsOf others triggers)[·]?)
                ∧ played.filterMap (·.part.trigger?) = triggers.filter (·.event ∈ lineage)
                ∧ Plays played event scene after.event after.state
                ∧ after.report = reportOf (played.map Played.visit)
                ∧ after.report.failures = played.filterMap Played.error? := by
  obtain ⟨context, before, rfl⟩ := Startup.goLive_of_start starts
  obtain ⟨more, scripts, loaded, registries, entries⟩ :=
    ScriptsLoading.foldl_load startup.scripts { context, scene := before.scene }
  have scripts : (startup.goLive context before).2.scripts = more := scripts
  have registries : (startup.goLive context before).2.context.registries = context.registries :=
    registries
  have holds : (startup.goLive context before).2.context.dispatcher.table.entries
      = (partsOf context.handlers.entries (more.flatMap LoadedScript.triggers)).map Part.entry := by
    rw [partsOf, List.map_append, List.map_map, List.map_map]
    refine entries.trans (congrArg (· ++ _) ?_)
    exact (List.map_id _).symm
  refine ⟨before.scene.world, context.handlers.entries, ?_⟩
  rw [scripts]
  refine ⟨?_, holds, fun event scene => ?_⟩
  · rw [registries]
    exact loaded
  · obtain ⟨played, parts, triggers, plays, report⟩ := dispatch_plays holds
      (startup.goLive context before).2.context.registries.wrappers event scene
    refine ⟨played, parts, triggers, plays, report, ?_⟩
    refine (congrArg DispatchReport.failures report).trans ?_
    show (played.map Played.visit).filterMap Visit.error? = _
    rw [List.filterMap_map]
    exact List.filterMap_congr fun each _ => each.error?_eq.symm

/-- A host whose one effect always fails, with two scripts that are told when they have been loaded. -/
def brittle : Startup where
  config := {}
  registrar := some {
    wrappers := {
      entries := [{
        name := "load", wrapper := .scriptLoad, source := none
        patterns := [{ source := "load", nodes := [.literal "load"], slotCount := 0 }]
        bases := [], description := none }] }
    grammar := {
      effects := [{
        name := "fail"
        patterns := [{ source := "fail", nodes := [.literal "fail"], slotCount := 0 }]
        factory := fun _ => some {
          description := "fail"
          perform := fun event scene => ⟨event.cancelled, scene, .error (.missing "fail")⟩ } }] } }
  scripts := [("a", "on load:\n fail\n fail"), ("b", "on load:\n fail")]

/-- Both scripts run when they are told again that they have been loaded, the second although all effects of
the first one fail; and each is reported with all of its failures. -/
theorem dispatch_runs_scripts_brittle :
    ∃ (running : Running) (played : List Played),
      (brittle.start { scene := { world := { bodies := [] } } }).result = .ok running
        ∧ (played.filterMap (·.part.trigger?)).map Trigger.name = ["a: on load", "b: on load"]
        ∧ (running.dispatch { occurrence := .scriptLoad } { world := { bodies := [] } }).report.failures
            = played.filterMap Played.error?
        ∧ played.filterMap Played.error?
            = [.failed "a: on load" (.trigger "a: on load" [.missing "fail", .missing "fail"]),
                .failed "b: on load" (.trigger "b: on load" [.missing "fail"])] := by
  have names : (brittle.start { scene := { world := { bodies := [] } } }).result.toOption.map
      (fun running => ((running.scripts.flatMap LoadedScript.triggers).filter
        (·.event ∈ running.context.registries.wrappers.lineage .scriptLoad)).map Trigger.name)
        = some ["a: on load", "b: on load"] := by
    decide +kernel
  have failures : (brittle.start { scene := { world := { bodies := [] } } }).result.toOption.map
      (fun running =>
        (running.dispatch { occurrence := .scriptLoad } { world := { bodies := [] } }).report.failures)
        = some [.failed "a: on load" (.trigger "a: on load" [.missing "fail", .missing "fail"]),
            .failed "b: on load" (.trigger "b: on load" [.missing "fail"])] := by
    cbv
  cases starts : (brittle.start { scene := { world := { bodies := [] } } }).result with
  | error error =>
      rw [starts] at names
      cases names
  | ok running =>
      rw [starts] at names failures
      obtain ⟨world, others, -, -, dispatches⟩ := dispatch_runs_scripts starts
      obtain ⟨played, -, triggers, -, -, reported⟩ :=
        dispatches { occurrence := .scriptLoad } { world := { bodies := [] } }
      refine ⟨running, played, rfl, ?_, reported, ?_⟩
      · rw [triggers]
        exact Option.some.inj names
      · rw [← reported]
        exact Option.some.inj failures

end ScriptBridge
