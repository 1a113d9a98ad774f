import Mathlib.Data.List.Nodup
import ScriptBridge.Proofs.Bridge.Delivery
import ScriptBridge.Proofs.Parsing.Resolution
import ScriptBridge.Proofs.Registration.Closing
/-!
What installing a bridge asks of buses and of the journal. A bridge remembers who owns each native type and
whom it has spoken of, and goes through all entries whenever it is installed. A wrapper has one entry at
most, so how an entry stands among the others never changes: it was only declared, or comes first for its
native type, or comes too late. Main statement: of any number of installations on whichever buses the first
subscribes and warns, once each, and the others do nothing; and every report accounts for every entry once.
-/

namespace ScriptBridge

/-! ### Registered wrappers -/

/-- The registries that registering, declaring and relating wrappers come to. -/
inductive WrapperRegistry.Registered : WrapperRegistry → Prop where
  | empty : Registered {}
  | register {registry next : WrapperRegistry} (registered : Registered registry) {spec : WrapperSpec}
      {wrapper native : TypeKey} {wrap? : Option Wrapping}
      (succeeds : registry.register spec wrapper native wrap? = .ok next) : Registered next
  | declare {registry next : WrapperRegistry} (registered : Registered registry) {spec : WrapperSpec}
      {wrapper : TypeKey} (succeeds : registry.declare spec wrapper = .ok next) : Registered next
  | addInterface {registry : WrapperRegistry} (registered : Registered registry) (key : TypeKey)
      (parents : List TypeKey) : Registered (registry.addInterface key parents)

/-- No wrapper has two entries. -/
def DistinctWrappers (entries : List WrapperEntry) : Prop :=
  (entries.map (·.wrapper)).Nodup

namespace WrapperRegistry

variable {registry next : WrapperRegistry}

theorem distinct_of_add {spec : WrapperSpec} {wrapper : TypeKey} {source : Option WrapperSource}
    (distinct : DistinctWrappers registry.entries)
    (succeeds : registry.add spec wrapper source = .ok next) : DistinctWrappers next.entries := by
  rw [add] at succeeds
  split at succeeds
  · cases succeeds
  · next free =>
      split at succeeds
      · cases succeeds
      · cases succeeds
        rw [get?, List.find?_eq_none] at free
        rw [DistinctWrappers, List.map_append, List.map_singleton, List.nodup_append]
        refine ⟨distinct, List.pairwise_singleton .., ?_⟩
        intro other listed added single same
        obtain ⟨entry, present, rfl⟩ := List.mem_map.1 listed
        rw [List.mem_singleton.1 single] at same
        exact free entry present (by simpa using same)

/-- A wrapper that has an entry is not registered again. -/
theorem Registered.distinct (registered : registry.Registered) : DistinctWrappers registry.entries := by
  induction registered with
  | empty => exact List.nodup_nil
  | @register registry next _ spec wrapper native wrap? succeeds ih =>
      cases wrap? with
      | none => cases succeeds
      | some wrap => exact distinct_of_add ih succeeds
  | declare _ succeeds ih => exact distinct_of_add ih succeeds
  | addInterface _ key parents ih => exact ih

/-- Resolving the slots of patterns leaves the wrappers of the entries as they are. -/
theorem map_wrapper_of_resolve {lookup : TypeLookup} (resolves : registry.resolve lookup = .ok next) :
    next.entries.map (·.wrapper) = registry.entries.map (·.wrapper) := by
  rw [resolve, resolveEntries_eq, map_refuseFirst] at resolves
  obtain ⟨-, rfl⟩ := refuseFirst_eq_ok_iff.1 resolves
  rw [List.map_map]
  rfl

end WrapperRegistry

/-- Closing leaves the wrappers of the entries as they are. -/
theorem Registrar.distinct_of_close {registrar : Registrar} {sealedContext : SealedContext}
    (registered : registrar.wrappers.Registered) (closes : registrar.close = .ok sealedContext) :
    DistinctWrappers sealedContext.registries.wrappers.entries := by
  obtain ⟨registries, freezes, rfl⟩ := map_eq_ok closes
  obtain ⟨wrappers, resolves, freezes⟩ := bind_eq_ok freezes
  obtain ⟨grammar, -, freezes⟩ := bind_eq_ok freezes
  cases freezes
  show (wrappers.entries.map (·.wrapper)).Nodup
  rw [WrapperRegistry.map_wrapper_of_resolve resolves]
  exact registered.distinct

/-! ### How entries stand -/

/-- How an entry stands among others: it was only declared, or owns the native type that it wraps, or finds
that type owned by another wrapper. -/
inductive Standing where
  | declared
  | owner (source : WrapperSource)
  | rival (source : WrapperSource) (owner : TypeKey)

namespace Standing

/-- The native type that is owned. -/
def owned? : Standing → Option TypeKey
  | owner source => some source.native
  | _ => none

def isDeclared : Standing → Bool
  | declared => true
  | _ => false

def isRival : Standing → Bool
  | rival _ _ => true
  | _ => false

end Standing

/-- The standing of an entry among entries. -/
def standingIn (entries : List WrapperEntry) (entry : WrapperEntry) : Standing :=
  match entry.source with
  | none => .declared
  | some source =>
    match (ownerIn? entries source.native).map (·.wrapper) with
    | none => .owner source
    | some owner => if owner = entry.wrapper then .owner source else .rival source owner

/-- What an entry that owns a native type subscribes, and under which key. -/
def subscription? (context : BridgeContext) (entries : List WrapperEntry) (entry : WrapperEntry) :
    Option (TypeKey × (NativeEvent → Reaction NativeEvent Scene)) :=
  match standingIn entries entry with
  | .owner source => some (source.native, Bridge.callback context entry.wrapper source.construct)
  | _ => none

/-- The wrapper of an entry with what there is to warn of. -/
def caution? (warnsUnbridged : Bool) (entries : List WrapperEntry) (entry : WrapperEntry) :
    Option (TypeKey × Warning) :=
  match standingIn entries entry with
  | .declared => if warnsUnbridged then some (entry.wrapper, .unbridged entry.name) else none
  | .owner _ => none
  | .rival source owner => some (entry.wrapper, .alreadyBridged entry.name source.native owner)

section Standings

variable {all before after : List WrapperEntry} {entry : WrapperEntry}

theorem standingIn_of_declared (all : List WrapperEntry) (declared : entry.source = none) :
    standingIn all entry = .declared := by
  rw [standingIn, declared]

theorem ownerIn?_isSome {source : WrapperSource} (listed : entry ∈ all)
    (present : entry.source = some source) : (ownerIn? all source.native).isSome := by
  rw [ownerIn?, List.find?_isSome]
  exact ⟨entry, listed, by simp [WrapperEntry.native?, present]⟩

/-- The first entry for a native type owns it. -/
theorem standingIn_of_unowned {source : WrapperSource} (listed : all = before ++ entry :: after)
    (present : entry.source = some source) (unowned : ownerIn? before source.native = none) :
    standingIn all entry = .owner source := by
  have first : ownerIn? all source.native = some entry := by
    rw [listed, ownerIn?_of_earliest after (by simp [WrapperEntry.native?, present])]
    simpa [ownerIn?] using unowned
  simp [standingIn, present, first]

/-- The others find it owned by the first. -/
theorem standingIn_of_owned {source : WrapperSource} {owner : WrapperEntry}
    (distinct : DistinctWrappers all) (listed : all = before ++ entry :: after)
    (present : entry.source = some source) (owned : ownerIn? before source.native = some owner) :
    owner.wrapper ≠ entry.wrapper ∧ standingIn all entry = .rival source owner.wrapper := by
  have first : ownerIn? all source.native = some owner := by
    rw [listed, ownerIn?, List.find?_append, ← ownerIn?, owned]
    rfl
  have differs : owner.wrapper ≠ entry.wrapper := by
    rw [DistinctWrappers, listed, List.map_append, List.nodup_append] at distinct
    exact distinct.2.2 _ (List.mem_map_of_mem (List.mem_of_find?_eq_some owned)) _ (by simp)
  exact ⟨differs, by simp [standingIn, present, first, differs]⟩

/-- Every entry that wraps native events owns them or is a rival of whom owns them. -/
theorem standingIn_cases (all : List WrapperEntry) (entry : WrapperEntry) :
    entry.source = none ∧ standingIn all entry = .declared
      ∨ (∃ source, entry.source = some source ∧ standingIn all entry = .owner source)
      ∨ ∃ source owner, entry.source = some source ∧ standingIn all entry = .rival source owner := by
  rw [standingIn]
  cases entry.source with
  | none => exact .inl ⟨rfl, rfl⟩
  | some source =>
      dsimp only
      split
      · exact .inr (.inl ⟨source, rfl, rfl⟩)
      · split
        · exact .inr (.inl ⟨source, rfl, rfl⟩)
        · exact .inr (.inr ⟨source, _, rfl, rfl⟩)

end Standings

/-- The report of a first installation about some of the entries. -/
def firstReport (all listed : List WrapperEntry) : InstallReport where
  installed := listed.filterMap fun entry => (standingIn all entry).owned?
  unbridged := (listed.filter fun entry => (standingIn all entry).isDeclared).map (·.wrapper)
  conflicts := (listed.filter fun entry => (standingIn all entry).isRival).map (·.wrapper)

/-- The report of a later one, which finds installed what the first did. -/
def laterReport (all listed : List WrapperEntry) : InstallReport :=
  let first := firstReport all listed
  { first with installed := [], alreadyInstalled := first.installed.length }

section Concat

variable {all : List WrapperEntry} {entry : WrapperEntry} (listed : List WrapperEntry)

theorem firstReport_of_declared (stands : standingIn all entry = .declared) :
    firstReport all (listed ++ [entry]) = { firstReport all listed with
      unbridged := (firstReport all listed).unbridged ++ [entry.wrapper] } := by
  simp [firstReport, stands, Standing.owned?, Standing.isDeclared, Standing.isRival]

theorem firstReport_of_owner {source : WrapperSource} (stands : standingIn all entry = .owner source) :
    firstReport all (listed ++ [entry]) = { firstReport all listed with
      installed := (firstReport all listed).installed ++ [source.native] } := by
  simp [firstReport, stands, Standing.owned?, Standing.isDeclared, Standing.isRival]

theorem firstReport_of_rival {source : WrapperSource} {owner : TypeKey}
    (stands : standingIn all entry = .rival source owner) :
    firstReport all (listed ++ [entry]) = { firstReport all listed with
      conflicts := (firstReport all listed).conflicts ++ [entry.wrapper] } := by
  simp [firstReport, stands, Standing.owned?, Standing.isDeclared, Standing.isRival]

end Concat

/-- Subscribes callbacks in order. -/
def Bus.subscribeAll {ν σ : Type} (bus : Bus ν σ) (callbacks : List (TypeKey × (ν → Reaction ν σ))) :
    Bus ν σ :=
  callbacks.foldl (fun bus callback => bus.subscribe callback.1 callback.2) bus

/-- Writes warnings in order. -/
def Scene.warnAll (scene : Scene) (warnings : List Warning) : Scene :=
  warnings.foldl (fun scene warning => Journaled.warn warning scene) scene

/-! ### The first installation -/

/-- A warning is not part of the report. -/
theorem Bridge.report_warnOnce (current : Installing) (wrapper : TypeKey) (enabled : Bool)
    (warning : Warning) : (warnOnce current wrapper enabled warning).report = current.report := by
  rw [warnOnce]
  split <;> rfl

/-- How far a first installation has come when it has gone through the entries `before`. -/
structure Begun (context : BridgeContext) (warns : Bool) (all before : List WrapperEntry)
    (run : NativeRun) (current : Installing) : Prop where
  context_eq : current.bridge.context = context
  warns_eq : current.bridge.warnsUnbridged = warns
  owner : ∀ native, current.bridge.owners.get? native = (ownerIn? before native).map (·.wrapper)
  reported : ∀ wrapper, wrapper ∈ current.bridge.reported
    ↔ ∃ entry ∈ before, entry.wrapper = wrapper ∧ (standingIn all entry).owned? = none
  bus_eq : current.run.bus = run.bus.subscribeAll (before.filterMap (subscription? context all))
  state_eq : current.run.state
    = run.state.warnAll ((before.filterMap (caution? warns all)).map Prod.snd)
  report_eq : current.report = firstReport all before

namespace Begun

variable {context : BridgeContext} {warns : Bool} {all before after : List WrapperEntry}
  {entry : WrapperEntry} {run : NativeRun} {current : Installing}

/-- Nobody has spoken of an entry that is still to come. -/
theorem not_reported (begun : Begun context warns all before run current)
    (distinct : DistinctWrappers all) (listed : all = before ++ entry :: after) :
    entry.wrapper ∉ current.bridge.reported := by
  rw [DistinctWrappers, listed, List.map_append, List.nodup_append] at distinct
  intro spoken
  obtain ⟨earlier, present, same, -⟩ := (begun.reported entry.wrapper).1 spoken
  exact distinct.2.2 _ (List.mem_map_of_mem present) _ (by simp) same

/-- An entry that brings no new owner is spoken of and put in the report. -/
theorem speak (begun : Begun context warns all before run current)
    (silent : entry.wrapper ∉ current.bridge.reported) {enabled : Bool} {warning : Warning}
    {report : InstallReport}
    (owned : ∀ native, entry.native? = some native → (ownerIn? before native).isSome)
    (unsubscribed : subscription? context all entry = none)
    (unowned : (standingIn all entry).owned? = none)
    (cautioned : caution? warns all entry = if enabled then some (entry.wrapper, warning) else none)
    (reports : report = firstReport all (before ++ [entry])) :
    Begun context warns all (before ++ [entry]) run
      { Bridge.warnOnce current entry.wrapper enabled warning with report } := by
  rw [Bridge.warnOnce, if_neg (by simpa using silent)]
  refine ⟨begun.context_eq, begun.warns_eq, ?_, ?_, ?_, ?_, reports⟩
  · intro native
    rw [ownerIn?_append_of_owned owned]
    exact begun.owner native
  · intro wrapper
    simp [begun.reported, unowned, or_and_right, exists_or, eq_comm, or_comm]
  · simp [begun.bus_eq, unsubscribed]
  · cases enabled <;> simp [begun.state_eq, cautioned, Scene.warnAll]

/-- The first that wraps a native type comes to own it, and is subscribed. -/
theorem subscribe (begun : Begun context warns all before run current) {source : WrapperSource}
    (present : entry.source = some source) (unowned : ownerIn? before source.native = none)
    (stands : standingIn all entry = .owner source) :
    let bridge := current.bridge
    let installed := current.report.installed ++ [source.native]
    Begun context warns all (before ++ [entry]) run
      { bridge := { bridge with owners := bridge.owners.insert source.native entry.wrapper }
        run := { current.run with
          bus := current.run.bus.subscribe source.native
            (Bridge.callback bridge.context entry.wrapper source.construct) }
        report := { current.report with installed } } := by
  have wraps : entry.native? = some source.native := by simp [WrapperEntry.native?, present]
  refine ⟨begun.context_eq, begun.warns_eq, ?_, ?_, ?_, ?_, ?_⟩
  · intro native
    rw [Table.get?_insert, ownerIn?_append_singleton, wraps]
    by_cases same : source.native = native
    · subst same
      rw [if_pos rfl, if_pos rfl, unowned]
      rfl
    · rw [if_neg same, if_neg (by simpa using same), Option.or_none, begun.owner]
  · intro wrapper
    simp [begun.reported, stands, Standing.owned?, or_and_right, exists_or]
  · simp [begun.bus_eq, subscription?, stands, begun.context_eq, Bus.subscribeAll]
  · simp [begun.state_eq, caution?, stands]
  · rw [firstReport_of_owner before stands, ← begun.report_eq]

/-- An entry that is declared, or first, or too late is dealt with as such. -/
theorem installEntry (begun : Begun context warns all before run current)
    (distinct : DistinctWrappers all) (listed : all = before ++ entry :: after) :
    Begun context warns all (before ++ [entry]) run (Bridge.installEntry current entry) := by
  have silent := begun.not_reported distinct listed
  rw [Bridge.installEntry]
  split
  · next declared =>
      have stands := standingIn_of_declared all declared
      refine begun.speak silent ?_ ?_ ?_ ?_ ?_
      · simp [WrapperEntry.native?, declared]
      · rw [subscription?, stands]
      · rw [stands]
        rfl
      · rw [caution?, stands, begun.warns_eq]
      · rw [firstReport_of_declared before stands, ← begun.report_eq, Bridge.report_warnOnce]
  · next source present =>
      have owner := begun.owner source.native
      split
      · next known =>
          obtain ⟨first, owned, rfl⟩ := Option.map_eq_some_iff.1 (owner.symm.trans known)
          obtain ⟨differs, stands⟩ := standingIn_of_owned distinct listed present owned
          rw [if_neg differs]
          refine begun.speak silent ?_ ?_ ?_ ?_ ?_
          · simp [WrapperEntry.native?, present, owned]
          · rw [subscription?, stands]
          · rw [stands]
            rfl
          · rw [caution?, stands]
            rfl
          · rw [firstReport_of_rival before stands, ← begun.report_eq, Bridge.report_warnOnce]
      · next free =>
          have unowned := Option.map_eq_none_iff.1 (owner.symm.trans free)
          exact begun.subscribe present unowned (standingIn_of_unowned listed present unowned)

theorem foldl_installEntry (begun : Begun context warns all before run current)
    (distinct : DistinctWrappers all) (listed : all = before ++ after) :
    Begun context warns all all run (after.foldl Bridge.installEntry current) := by
  induction after generalizing before current with
  | nil =>
      rw [List.append_nil] at listed
      exact listed ▸ begun
  | cons entry rest ih =>
      exact ih (begun.installEntry distinct listed) (by rw [listed, List.append_assoc]; rfl)

end Begun

/-- A new bridge that is installed goes through all entries. -/
theorem Bridge.begun_install {context : BridgeContext} (warns : Bool) (run : NativeRun)
    (distinct : DistinctWrappers context.registries.wrappers.entries) :
    let all := context.registries.wrappers.entries
    Begun context warns all all run
      (Bridge.install { context, warnsUnbridged := warns } run) := by
  intro all
  have fresh : Begun context warns all [] run { bridge := { context, warnsUnbridged := warns }, run } :=
    ⟨rfl, rfl, fun _ => rfl, by simp, rfl, rfl, rfl⟩
  exact fresh.foldl_installEntry distinct rfl

/-! ### Later installations -/

/-- The bridge recalls who owns each native type that entries wrap, and that it has spoken of all others. -/
structure Recalls (context : BridgeContext) (bridge : Bridge) : Prop where
  context_eq : bridge.context = context
  owner : ∀ native, bridge.owners.get? native
    = (ownerIn? context.registries.wrappers.entries native).map (·.wrapper)
  reported : ∀ entry ∈ context.registries.wrappers.entries,
    (standingIn context.registries.wrappers.entries entry).owned? = none →
      entry.wrapper ∈ bridge.reported

namespace Recalls

variable {context : BridgeContext} {bridge : Bridge}

/-- Whether declared events are warned of is of no account. -/
theorem withWarnings (recalls : Recalls context bridge) (warns : Bool) :
    Recalls context { bridge with warnsUnbridged := warns } :=
  ⟨recalls.context_eq, recalls.owner, recalls.reported⟩

/-- An entry is put in the report, and that is all. -/
theorem installEntry (recalls : Recalls context bridge) {before : List WrapperEntry}
    {entry : WrapperEntry} (present : entry ∈ context.registries.wrappers.entries) (run : NativeRun) :
    let all := context.registries.wrappers.entries
    Bridge.installEntry { bridge, run, report := laterReport all before } entry
      = { bridge, run, report := laterReport all (before ++ [entry]) } := by
  intro all
  have spoken := recalls.reported entry present
  rw [Bridge.installEntry]
  split
  · next declared =>
      have stands := standingIn_of_declared all declared
      rw [Bridge.warnOnce, if_pos (by simpa using spoken (by rw [stands]; rfl))]
      simp [laterReport, firstReport_of_declared before stands]
  · next source wraps =>
      have owner := recalls.owner source.native
      obtain ⟨first, owned⟩ := Option.isSome_iff_exists.1 (ownerIn?_isSome present wraps)
      rw [owned, Option.map_some] at owner
      rw [owner]
      dsimp only
      split
      · next same =>
          have stands : standingIn all entry = .owner source := by
            simp [standingIn, wraps, all, owned, same]
          simp [laterReport, firstReport_of_owner before stands]
      · next differs =>
          have stands : standingIn all entry = .rival source first.wrapper := by
            simp [standingIn, wraps, all, owned, differs]
          rw [Bridge.warnOnce, if_pos (by simpa using spoken (by rw [stands]; rfl))]
          simp [laterReport, firstReport_of_rival before stands]

theorem foldl_installEntry (recalls : Recalls context bridge) (run : NativeRun)
    {before after : List WrapperEntry} (listed : context.registries.wrappers.entries = before ++ after) :
    let all := context.registries.wrappers.entries
    after.foldl Bridge.installEntry { bridge, run, report := laterReport all before }
      = { bridge, run, report := laterReport all all } := by
  intro all
  induction after generalizing before with
  | nil => rw [List.foldl_nil, ← List.append_nil before, ← listed]
  | cons entry rest ih =>
      rw [List.foldl_cons, recalls.installEntry (by rw [listed]; simp),
        ih (by rw [listed, List.append_assoc]; rfl)]

/-- Installing again leaves the bridge, the bus and the scene as they are. -/
theorem install (recalls : Recalls context bridge) (run : NativeRun) :
    let all := context.registries.wrappers.entries
    bridge.install run = { bridge, run, report := laterReport all all } := by
  rw [Bridge.install, recalls.context_eq]
  exact @foldl_installEntry _ _ recalls run [] _ rfl

end Recalls

theorem Begun.recalls {context : BridgeContext} {warns : Bool} {run : NativeRun} {current : Installing}
    (begun : Begun context warns context.registries.wrappers.entries
      context.registries.wrappers.entries run current) : Recalls context current.bridge where
  context_eq := begun.context_eq
  owner := begun.owner
  reported entry listed unowned := (begun.reported entry.wrapper).2 ⟨entry, listed, rfl, unowned⟩

/-! ### Sequences of installations -/

/-- A call of `install`: whether declared events are warned of by then, and the bus with the scene. -/
structure InstallCall where
  warnsUnbridged : Bool
  run : NativeRun

namespace Bridge

/-- What a call comes to. -/
def answer (bridge : Bridge) (call : InstallCall) : Installing :=
  { bridge with warnsUnbridged := call.warnsUnbridged }.install call.run

/-- What calls come to that are made one after the other. -/
def answers : Bridge → List InstallCall → List Installing
  | _, [] => []
  | bridge, call :: rest => bridge.answer call :: answers (bridge.answer call).bridge rest

end Bridge

/-- Whatever the buses and whether declared events are warned of: nothing happens, and the reports are one. -/
theorem Recalls.answers {context : BridgeContext} {bridge : Bridge} (recalls : Recalls context bridge)
    (calls : List InstallCall) :
    let all := context.registries.wrappers.entries
    bridge.answers calls = calls.map fun call =>
      { bridge := { bridge with warnsUnbridged := call.warnsUnbridged }, run := call.run
        report := laterReport all all } := by
  intro all
  induction calls generalizing bridge with
  | nil => rfl
  | cons call rest ih =>
      have again := (recalls.withWarnings call.warnsUnbridged).install call.run
      rw [Bridge.answers, Bridge.answer, again, ih (recalls.withWarnings call.warnsUnbridged)]
      rfl

/-! ### What reports say -/

section Reports

variable {all before after : List WrapperEntry} {entry : WrapperEntry}

/-- Each entry is counted once. -/
theorem firstReport_count (all listed : List WrapperEntry) :
    (firstReport all listed).installed.length + (firstReport all listed).unbridged.length
      + (firstReport all listed).conflicts.length = listed.length := by
  induction listed with
  | nil => rfl
  | cons entry rest ih =>
      rcases standingIn_cases all entry with ⟨-, stands⟩ | ⟨source, -, stands⟩ | ⟨source, owner, -, stands⟩
      all_goals
        simp [firstReport, stands, Standing.owned?, Standing.isDeclared, Standing.isRival] at ih ⊢
        omega

theorem map_fst_subscriptions (context : BridgeContext) (all listed : List WrapperEntry) :
    (listed.filterMap (subscription? context all)).map Prod.fst
      = (firstReport all listed).installed := by
  rw [List.map_filterMap, firstReport]
  congr 1
  funext entry
  rw [subscription?]
  cases standingIn all entry <;> rfl

/-- Those who are warned of, in order. -/
theorem map_fst_cautions (warns : Bool) (all listed : List WrapperEntry) :
    (listed.filterMap (caution? warns all)).map Prod.fst
      = (listed.filter fun entry =>
          (standingIn all entry).isRival || warns && (standingIn all entry).isDeclared).map
          (·.wrapper) := by
  rw [List.map_filterMap, ← List.filterMap_eq_filter, List.map_filterMap]
  congr 1
  funext entry
  cases stands : standingIn all entry <;> cases warns <;>
    simp [caution?, Option.guard, stands, Standing.isDeclared, Standing.isRival]

/-- What holds of entries picks their wrappers. -/
theorem mem_wrappers_iff (distinct : DistinctWrappers all) (listed : entry ∈ all)
    (holds : WrapperEntry → Bool) :
    entry.wrapper ∈ (all.filter holds).map (·.wrapper) ↔ holds entry = true := by
  constructor
  · intro picked
    obtain ⟨other, present, same⟩ := List.mem_map.1 picked
    obtain ⟨present, fits⟩ := List.mem_filter.1 present
    exact List.inj_on_of_nodup_map distinct present listed same ▸ fits
  · intro fits
    exact List.mem_map_of_mem (List.mem_filter.2 ⟨listed, fits⟩)

theorem nodup_wrappers (distinct : DistinctWrappers all) (holds : WrapperEntry → Bool) :
    ((all.filter holds).map (·.wrapper)).Nodup :=
  distinct.sublist (List.filter_sublist.map _)

/-- Who is installed for a native type is the first that wraps it. -/
theorem wrapper_of_owned (listed : entry ∈ all) {native : TypeKey}
    (owned : (standingIn all entry).owned? = some native) :
    (ownerIn? all native).map (·.wrapper) = some entry.wrapper := by
  rw [standingIn] at owned
  split at owned
  · cases owned
  · next source present =>
      obtain ⟨first, found⟩ := Option.isSome_iff_exists.1 (ownerIn?_isSome listed present)
      rw [found, Option.map_some] at owned
      dsimp only at owned
      split at owned
      · next same =>
          cases owned
          rw [found, Option.map_some, same]
      · cases owned

/-- Exactly the native types that are wrapped are installed. -/
theorem mem_installed_iff (native : TypeKey) :
    native ∈ (firstReport all all).installed ↔ ∃ entry ∈ all, entry.native? = some native := by
  constructor
  · intro installed
    obtain ⟨entry, listed, owned⟩ := List.mem_filterMap.1 installed
    rcases standingIn_cases all entry with ⟨-, stands⟩ | ⟨source, present, stands⟩ | ⟨_, _, -, stands⟩
    · rw [stands] at owned
      cases owned
    · rw [stands] at owned
      cases owned
      exact ⟨entry, listed, by rw [WrapperEntry.native?, present, Option.map_some]⟩
    · rw [stands] at owned
      cases owned
  · rintro ⟨entry, listed, wraps⟩
    obtain ⟨source, present, rfl⟩ := Option.map_eq_some_iff.1 wraps
    obtain ⟨first, found⟩ := Option.isSome_iff_exists.1 (ownerIn?_isSome listed present)
    have claims : first.native? = some source.native := by simpa using List.find?_some found
    obtain ⟨own, has, same⟩ := Option.map_eq_some_iff.1 claims
    have stands : standingIn all first = .owner own := by simp [standingIn, has, same, found]
    exact List.mem_filterMap.2
      ⟨first, List.mem_of_find?_eq_some found, by rw [stands, ← same]; rfl⟩

/-- No native type is installed twice. -/
theorem nodup_installed (distinct : DistinctWrappers all) : (firstReport all all).installed.Nodup := by
  rw [firstReport, List.Nodup, List.pairwise_filterMap]
  refine List.Pairwise.imp_of_mem ?_ (List.pairwise_map.1 distinct)
  intro entry other listed present differs native owned also owns same
  have first := wrapper_of_owned listed owned
  rw [same, wrapper_of_owned present owns, Option.some.injEq] at first
  exact differs first.symm

/-- An entry is a rival if an earlier one wraps native events of its type. -/
theorem isRival_iff (distinct : DistinctWrappers all) (listed : all = before ++ entry :: after) :
    (standingIn all entry).isRival = true
      ↔ ∃ native, entry.native? = some native ∧ ∃ earlier ∈ before, earlier.native? = some native := by
  have owned_before : ∀ native,
      (ownerIn? before native).isSome ↔ ∃ earlier ∈ before, earlier.native? = some native := by
    intro native
    simp [ownerIn?]
  cases present : entry.source with
  | none => simp [standingIn_of_declared all present, Standing.isRival, WrapperEntry.native?, present]
  | some source =>
      have wraps : entry.native? = some source.native := by simp [WrapperEntry.native?, present]
      cases found : ownerIn? before source.native with
      | none =>
          have nobody := owned_before source.native
          rw [found] at nobody
          simpa [standingIn_of_unowned listed present found, Standing.isRival, wraps] using nobody
      | some first =>
          have somebody := owned_before source.native
          rw [found] at somebody
          simpa [(standingIn_of_owned distinct listed present found).2, Standing.isRival, wraps]
            using somebody

theorem isDeclared_iff : (standingIn all entry).isDeclared = true ↔ entry.native? = none := by
  rcases standingIn_cases all entry with
    ⟨declared, stands⟩ | ⟨source, present, stands⟩ | ⟨source, owner, present, stands⟩
  · simp [stands, Standing.isDeclared, WrapperEntry.native?, declared]
  · simp [stands, Standing.isDeclared, WrapperEntry.native?, present]
  · simp [stands, Standing.isDeclared, WrapperEntry.native?, present]

end Reports

/-- Of any number of installations of a bridge, on whichever buses and with warnings of declared events on or
off, the first subscribes one callback for each native type that some registered wrapper wraps, that of the
wrapper registered first, and warns of every other wrapper of the type and, if that is on, of every declared
event, once each. The later ones subscribe and warn of nothing. Every report counts each entry once: as
installed in the first and already installed in the others, as declared, or as a conflict, which it is exactly
if an earlier entry wraps native events of the same type. -/
theorem installations_settle_at_once {registrar : Registrar} {sealedContext : SealedContext}
    (registered : registrar.wrappers.Registered) (closes : registrar.close = .ok sealedContext)
    (handlers : HandlerTable Scene) (first : InstallCall) (later : List InstallCall) :
    let context := SealedContext.finish { sealedContext with handlers }
    let all := context.registries.wrappers.entries
    let subscriptions := all.filterMap (subscription? context all)
    let cautions := all.filterMap (caution? first.warnsUnbridged all)
    let done := Bridge.answer { context } first
    let others := done.bridge.answers later
    (done.run.bus = first.run.bus.subscribeAll subscriptions
        ∧ subscriptions.map Prod.fst = done.report.installed ∧ done.report.installed.Nodup
        ∧ ∀ native, native ∈ done.report.installed ↔ ∃ entry ∈ all, entry.native? = some native)
      ∧ (done.run.state = first.run.state.warnAll (cautions.map Prod.snd)
        ∧ (cautions.map Prod.fst).Nodup
        ∧ ∀ entry ∈ all, entry.wrapper ∈ cautions.map Prod.fst
            ↔ entry.wrapper ∈ done.report.conflicts
              ∨ first.warnsUnbridged = true ∧ entry.wrapper ∈ done.report.unbridged)
      ∧ others.map (·.run) = later.map (·.run)
      ∧ (done.report.alreadyInstalled = 0 ∧ ∀ again ∈ others, again.report =
          { done.report with installed := [], alreadyInstalled := done.report.installed.length })
      ∧ (∀ made ∈ done :: others, made.report.installed.length + made.report.alreadyInstalled
          + made.report.unbridged.length + made.report.conflicts.length = all.length)
      ∧ (done.report.unbridged.Nodup ∧ done.report.conflicts.Nodup)
      ∧ ∀ before entry after, all = before ++ entry :: after →
          (entry.wrapper ∈ done.report.unbridged ↔ entry.native? = none)
          ∧ (entry.wrapper ∈ done.report.conflicts
            ↔ ∃ native, entry.native? = some native
              ∧ ∃ earlier ∈ before, earlier.native? = some native) := by
  intro context all subscriptions cautions done others
  have distinct : DistinctWrappers all := Registrar.distinct_of_close registered closes
  have begun : Begun context first.warnsUnbridged all all first.run done :=
    Bridge.begun_install first.warnsUnbridged first.run distinct
  have nothing : others = later.map fun call => _ := begun.recalls.answers later
  have count := firstReport_count all all
  rw [begun.report_eq]
  refine ⟨⟨begun.bus_eq, map_fst_subscriptions context all all, nodup_installed distinct,
      mem_installed_iff⟩, ⟨begun.state_eq, ?_, ?_⟩, ?_, ⟨rfl, ?_⟩, ?_,
    ⟨nodup_wrappers distinct _, nodup_wrappers distinct _⟩, ?_⟩
  · rw [map_fst_cautions]
    exact nodup_wrappers distinct _
  · intro entry listed
    rw [map_fst_cautions, mem_wrappers_iff distinct listed, firstReport,
      mem_wrappers_iff distinct listed, mem_wrappers_iff distinct listed, Bool.or_eq_true,
      Bool.and_eq_true]
  · rw [nothing, List.map_map]
    rfl
  · intro again made
    rw [nothing] at made
    obtain ⟨call, -, rfl⟩ := List.mem_map.1 made
    rfl
  · intro made listed
    rcases List.mem_cons.1 listed with rfl | again
    · rw [begun.report_eq]
      show _ + 0 + _ + _ = _
      omega
    · rw [nothing] at again
      obtain ⟨call, -, rfl⟩ := List.mem_map.1 again
      show 0 + (firstReport all all).installed.length + (firstReport all all).unbridged.length
        + (firstReport all all).conflicts.length = _
      omega
  · intro before entry after listed
    have present : entry ∈ all := by rw [listed]; simp
    rw [firstReport, mem_wrappers_iff distinct present, mem_wrappers_iff distinct present]
    exact ⟨isDeclared_iff, isRival_iff distinct listed⟩

/-- Two wrappers of greetings and a declared event. -/
def crowd : WrapperRegistry where
  entries :=
    [greetingEntry "first", greetingEntry "second",
      { name := "load", wrapper := .named "load", source := none, patterns := [], bases := []
        description := none }]

theorem crowd_registered : crowd.Registered := by
  have one : WrapperRegistry.Registered { entries := [greetingEntry "first"] } :=
    @WrapperRegistry.Registered.register {} _ .empty { name := "first" } (.named "first")
      (.named "Hello") ((greetingEntry "first").source.map WrapperSource.wrap) rfl
  have two : WrapperRegistry.Registered { entries := [greetingEntry "first", greetingEntry "second"] } :=
    @WrapperRegistry.Registered.register _ _ one { name := "second" } (.named "second")
      (.named "Hello") ((greetingEntry "second").source.map WrapperSource.wrap) rfl
  exact @WrapperRegistry.Registered.declare _ crowd two { name := "load" } (.named "load") rfl

/-- The first wrapper is installed, the second is too late, and a second installation on an empty bus finds that
done. -/
theorem installations_settle_at_once_crowd :
    crowd.Registered ∧ ∃ sealedContext, Registrar.close { wrappers := crowd } = .ok sealedContext
      ∧ let call : InstallCall := ⟨true, { bus := {}, state := { world := { bodies := [] } } }⟩
        let done := Bridge.answer { context := sealedContext.finish } call
        .named "Hello" ∈ done.report.installed ∧ .named "second" ∈ done.report.conflicts
          ∧ .named "load" ∈ done.report.unbridged
          ∧ ∀ again ∈ done.bridge.answers [call], again.report.installed = [] := by
  refine ⟨crowd_registered, _, rfl, ?_⟩
  intro call done
  obtain ⟨⟨-, -, -, installed⟩, -, -, ⟨-, later⟩, -, -, stands⟩ := @installations_settle_at_once
    { wrappers := crowd } _ crowd_registered rfl {} call [call]
  refine ⟨(installed _).2 ⟨greetingEntry "first", .head _, rfl⟩, ?_, ?_, ?_⟩
  · exact (stands [greetingEntry "first"] (greetingEntry "second") _ rfl).2.2
      ⟨.named "Hello", rfl, greetingEntry "first", .head _, rfl⟩
  · exact (stands [greetingEntry "first", greetingEntry "second"] _ [] rfl).1.2 rfl
  · intro again made
    rw [later again made]

end ScriptBridge
