import ScriptBridge.Proofs.Dispatch.RunningOrder
/-!
The course of a dispatch, told handler by handler and apart from any report: each handler that is
considered is either skipped or invoked, and what it leaves is what the next one finds. Main statement: a
dispatch considers the handlers for the event's lineage in their running order, follows the course that
this makes, and reports exactly what became of each.
-/

namespace ScriptBridge

/-- What became of one handler that was considered: it was passed over, or it was invoked and ended in
some way. -/
inductive Visit where
  | skipped
  | invoked (name : String) (ending : Ending)

/-- The failure that a visit leaves in the report. -/
def Visit.error? : Visit → Option HandlerError
  | .skipped => none
  | .invoked name ending => ending.error? name

/-- Whether the handler was invoked. -/
def Visit.wasInvoked : Visit → Bool
  | .skipped => false
  | .invoked .. => true

/-- What a list of visits comes to. -/
def reportOf (visits : List Visit) : DispatchReport where
  invoked := visits.countP Visit.wasInvoked
  skipped := visits.countP (!·.wasInvoked)
  failures := visits.filterMap Visit.error?

/-- The handlers of a running order stand at its places, one at each. -/
theorem map_handlersFor {σ : Type} (table : HandlerTable σ) (wrappers : WrapperRegistry)
    (key : TypeKey) :
    ((table.build wrappers).handlersFor key).map some
      = (table.runningOrder (wrappers.lineage key)).map (table.entries[·]?) := by
  rw [Dispatcher.handlersFor, HandlerTable.placesFor_build, List.map_filterMap]
  have present : ∀ place ∈ table.runningOrder (wrappers.lineage key),
      ∃ entry, table.entries[place]? = some entry := by
    intro place listed
    obtain ⟨entry, found, -⟩ := (HandlerTable.mem_runningOrder place _).1 listed
    exact ⟨entry, found⟩
  generalize table.runningOrder (wrappers.lineage key) = places at present
  induction places with
  | nil => rfl
  | cons place rest ih =>
      obtain ⟨entry, found⟩ := present place (by simp)
      have later := ih fun other listed => present other (List.mem_cons_of_mem _ listed)
      rw [List.map_cons, found, ← later]
      exact List.filterMap_cons_some (by
        show ((table.entries[place]?).map some) = some (some entry)
        rw [found]
        rfl)

section Courses

variable {σ : Type} [Journaled σ]

/-- The state that a handler leaves: a failure is also warned of. -/
def HandlerEntry.stateAfter (entry : HandlerEntry σ) (event : Event) (state : σ) : σ :=
  let turn := entry.handler event state
  match turn.ending.error? entry.info.name with
  | none => turn.state
  | some error => Journaled.warn (.handlerFailed event.name error) turn.state

/-- The course of an event through handlers, from the event and the state at its beginning to those at
its end. A handler is skipped exactly if it ignores cancelled events and the event is cancelled when its
turn comes; however an invoked one ends, the next handler is considered. -/
inductive Course : List (HandlerEntry σ) → Event → σ → List Visit → Event → σ → Prop where
  | done {event : Event} {state : σ} : Course [] event state [] event state
  | skip {entry : HandlerEntry σ} {rest : List (HandlerEntry σ)} {event last : Event}
      {state final : σ} {visits : List Visit}
      (ignores : entry.info.ignoresCancelled = true) (cancelled : event.isCancelled = true)
      (later : Course rest event state visits last final) :
      Course (entry :: rest) event state (.skipped :: visits) last final
  | invoke {entry : HandlerEntry σ} {rest : List (HandlerEntry σ)} {event last : Event}
      {state final : σ} {visits : List Visit}
      (runs : ¬ (entry.info.ignoresCancelled = true ∧ event.isCancelled = true))
      (later : Course rest (event.withCancelled (entry.handler event state).cancelled)
        (entry.stateAfter event state) visits last final) :
      Course (entry :: rest) event state
        (.invoked entry.info.name (entry.handler event state).ending :: visits) last final

/-- There is one visit for each handler. -/
theorem Course.length_eq {entries : List (HandlerEntry σ)} {event last : Event} {state final : σ}
    {visits : List Visit} (course : Course entries event state visits last final) :
    visits.length = entries.length := by
  induction course with
  | done => rfl
  | skip _ _ _ ih => rw [List.length_cons, List.length_cons, ih]
  | invoke _ _ ih => rw [List.length_cons, List.length_cons, ih]

/-- Every handler that was considered is counted once. -/
theorem invoked_add_skipped_reportOf (visits : List Visit) :
    (reportOf visits).invoked + (reportOf visits).skipped = visits.length := by
  rw [@List.length_eq_countP_add_countP _ Visit.wasInvoked visits]
  simp [reportOf]

/-- A report with what further visits add to it. -/
def DispatchReport.extend (report : DispatchReport) (visits : List Visit) : DispatchReport where
  invoked := report.invoked + (reportOf visits).invoked
  skipped := report.skipped + (reportOf visits).skipped
  failures := report.failures ++ (reportOf visits).failures

theorem DispatchReport.extend_nil (report : DispatchReport) : report.extend [] = report := by
  simp [extend, reportOf]

theorem DispatchReport.extend_append (report : DispatchReport) (visits later : List Visit) :
    report.extend (visits ++ later) = (report.extend visits).extend later := by
  simp only [extend, reportOf, List.countP_append, List.filterMap_append, Nat.add_assoc,
    List.append_assoc]

/-- One handler's part in a dispatch is the first visit of a course. -/
theorem runEntry_step (entry : HandlerEntry σ) (rest : List (HandlerEntry σ))
    (dispatching : Dispatching σ) {visits : List Visit} {last : Event} {final : σ}
    (later : Course rest (Dispatcher.runEntry dispatching entry).event
      (Dispatcher.runEntry dispatching entry).state visits last final) :
    ∃ visit, Course (entry :: rest) dispatching.event dispatching.state (visit :: visits) last final
      ∧ (Dispatcher.runEntry dispatching entry).report = dispatching.report.extend [visit] := by
  obtain ⟨report, event, state⟩ := dispatching
  by_cases passed : entry.info.ignoresCancelled = true ∧ event.isCancelled = true
  · have skips : Dispatcher.runEntry ⟨report, event, state⟩ entry
        = { report := { report with skipped := report.skipped + 1 }, event, state } := by
      simp [Dispatcher.runEntry, passed.1, passed.2]
    rw [skips] at later ⊢
    refine ⟨.skipped, .skip passed.1 passed.2 later, ?_⟩
    simp [DispatchReport.extend, reportOf, Visit.wasInvoked, Visit.error?]
  · have condition : (entry.info.ignoresCancelled && event.isCancelled) = false := by
      rw [Bool.eq_false_iff]
      intro both
      exact passed (by simpa using both)
    let visit : Visit := .invoked entry.info.name (entry.handler event state).ending
    have invokes : Dispatcher.runEntry ⟨report, event, state⟩ entry
        = { report := report.extend [visit]
            event := event.withCancelled (entry.handler event state).cancelled
            state := entry.stateAfter event state } := by
      simp only [Dispatcher.runEntry, condition, HandlerEntry.stateAfter]
      cases failure : (entry.handler event state).ending.error? entry.info.name <;>
        simp [visit, DispatchReport.extend, reportOf, Visit.wasInvoked, Visit.error?, failure]
    rw [invokes] at later ⊢
    exact ⟨visit, .invoke passed later, rfl⟩

/-- Handlers that run one after the other follow the course they make, and the report grows by what
became of each. -/
theorem foldl_runEntry_course (entries : List (HandlerEntry σ)) (dispatching : Dispatching σ) :
    ∃ visits, Course entries dispatching.event dispatching.state visits
        (entries.foldl Dispatcher.runEntry dispatching).event
        (entries.foldl Dispatcher.runEntry dispatching).state
      ∧ (entries.foldl Dispatcher.runEntry dispatching).report = dispatching.report.extend visits := by
  induction entries generalizing dispatching with
  | nil => exact ⟨[], .done, dispatching.report.extend_nil.symm⟩
  | cons entry rest ih =>
      obtain ⟨visits, later, grows⟩ := ih (Dispatcher.runEntry dispatching entry)
      obtain ⟨visit, course, first⟩ := runEntry_step entry rest dispatching later
      refine ⟨visit :: visits, course, ?_⟩
      rw [List.foldl_cons, grows, first, ← DispatchReport.extend_append]
      rfl

/-- Dispatch considers exactly the handlers registered for a key of the event's lineage, each once and in
ascending order of priority and registration, whether the event is of a registered wrapper or not. It
follows their course: a handler is skipped exactly if it ignores cancelled events and the event is
cancelled by then, and no failure stops another. The report counts what was invoked and what was
skipped, together the handlers for the event's type, and lists the failures as they arose. -/
theorem dispatch_follows_course (table : HandlerTable σ) (wrappers : WrapperRegistry) (event : Event)
    (state : σ) :
    ∃ (places : List Nat) (handlers : List (HandlerEntry σ)) (visits : List Visit),
      (∀ place, place ∈ places
        ↔ ∃ entry, table.entries[place]? = some entry ∧ entry.key ∈ wrappers.lineage event.key)
      ∧ places.Nodup
      ∧ places.Pairwise table.RunsBefore
      ∧ handlers.map some = places.map (table.entries[·]?)
      ∧ Course handlers event state visits
          ((table.build wrappers).dispatch event state).event
          ((table.build wrappers).dispatch event state).state
      ∧ ((table.build wrappers).dispatch event state).report = reportOf visits
      ∧ (reportOf visits).invoked + (reportOf visits).skipped
          = (table.build wrappers).handlerCount event.key := by
  obtain ⟨visits, course, report⟩ := foldl_runEntry_course
    ((table.build wrappers).handlersFor event.key) { report := {}, event, state }
  have order := map_handlersFor table wrappers event.key
  refine ⟨table.runningOrder (wrappers.lineage event.key), _, visits,
    fun place => HandlerTable.mem_runningOrder place _, HandlerTable.nodup_runningOrder _,
    HandlerTable.pairwise_runningOrder _, order, course, ?_, ?_⟩
  · refine report.trans ?_
    simp [DispatchReport.extend]
  · have lengths := congrArg List.length order
    rw [List.length_map, List.length_map] at lengths
    rw [invoked_add_skipped_reportOf, course.length_eq, HandlerTable.handlerCount_build, lengths]

end Courses

end ScriptBridge
