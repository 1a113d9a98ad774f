import Mathlib.Data.List.Sort
import ScriptBridge.Proofs.Dispatch.Course
/-!
What runs ahead of a handler of the lowest priority. Nothing has a lower one, so it is a matter of the order of
registration alone. Main statement: ahead of such a handler run exactly the handlers of that priority that were
registered earlier, and all others for the lineage run behind it.
-/

namespace ScriptBridge

section Positions

variable {σ : Type} {before after : List (HandlerEntry σ)} {entry : HandlerEntry σ}

/-- The places of the entries of which something holds, in order. -/
def placesWhere (entries : List (HandlerEntry σ)) (holds : HandlerEntry σ → Bool) : List Nat :=
  (entries.zipIdx.filter fun placed => holds placed.1).map (·.2)

theorem mem_placesWhere {entries : List (HandlerEntry σ)} {holds : HandlerEntry σ → Bool} {place : Nat} :
    place ∈ placesWhere entries holds
      ↔ ∃ entry, entries[place]? = some entry ∧ holds entry = true := by
  rw [placesWhere, List.mem_map]
  constructor
  · rintro ⟨⟨entry, number⟩, listed, rfl⟩
    rw [List.mem_filter, List.mem_zipIdx_iff_getElem?] at listed
    exact ⟨entry, listed⟩
  · rintro ⟨entry, present, fits⟩
    exact ⟨(entry, place), List.mem_filter.2 ⟨List.mem_zipIdx_iff_getElem?.2 present, fits⟩, rfl⟩

theorem ascending_placesWhere (entries : List (HandlerEntry σ)) (holds : HandlerEntry σ → Bool) :
    (placesWhere entries holds).Pairwise (· < ·) := by
  have ascending : (entries.zipIdx.map (·.2)).Pairwise (· < ·) := by
    rw [List.zipIdx_map_snd]
    exact List.pairwise_lt_range'
  exact ascending.sublist (List.filter_sublist.map _)

/-- At the places of some entries stand these entries, also if others come behind. -/
theorem filterMap_placesWhere (entries more : List (HandlerEntry σ)) (holds : HandlerEntry σ → Bool) :
    (placesWhere entries holds).filterMap ((entries ++ more)[·]?) = entries.filter holds := by
  have located : ∀ placed ∈ entries.zipIdx.filter fun placed => holds placed.1,
      ((fun place => (entries ++ more)[place]?) ∘ Prod.snd) placed = (some ∘ Prod.fst) placed := by
    intro placed listed
    have present := List.mem_zipIdx_iff_getElem?.1 (List.mem_of_mem_filter listed)
    exact (List.getElem?_append_left (List.getElem?_eq_some_iff.1 present).1).trans present
  have all : entries.zipIdx.map Prod.fst = entries := List.zipIdx_map_fst 0 entries
  rw [placesWhere, List.filterMap_map, List.filterMap_congr located, List.filterMap_eq_map]
  conv_rhs => rw [← all, List.filter_map]
  rfl

/-- An event goes to the handlers for its lineage, in some order. -/
theorem perm_handlersFor (table : HandlerTable σ) (wrappers : WrapperRegistry) (key : TypeKey) :
    ((table.build wrappers).handlersFor key).Perm
      (table.entries.filter (·.key ∈ wrappers.lineage key)) := by
  have places : (table.runningOrder (wrappers.lineage key)).Perm
      (placesWhere table.entries (·.key ∈ wrappers.lineage key)) := by
    rw [List.perm_ext_iff_of_nodup (HandlerTable.nodup_runningOrder _)
      ((ascending_placesWhere _ _).imp Nat.ne_of_lt)]
    intro place
    rw [HandlerTable.mem_runningOrder, mem_placesWhere]
    simp only [decide_eq_true_eq]
  have entries := filterMap_placesWhere table.entries [] (·.key ∈ wrappers.lineage key)
  rw [List.append_nil] at entries
  rw [Dispatcher.handlersFor, HandlerTable.placesFor_build, ← entries]
  exact places.filterMap _

theorem HandlerTable.rankAt_eq_zero_iff {table : HandlerTable σ} {place : Nat}
    (present : table.entries[place]? = some entry) :
    table.rankAt place = 0 ↔ entry.info.priority = .lowest := by
  rw [rankAt, present]
  show entry.info.priority.rank = 0 ↔ _
  cases entry.info.priority <;> decide

/-- Before a place of the lowest rank run those of that rank that were there earlier. -/
theorem HandlerTable.runsBefore_lowest_iff {table : HandlerTable σ} {place other : Nat}
    (lowest : table.rankAt place = 0) :
    table.RunsBefore other place ↔ table.rankAt other = 0 ∧ other < place := by
  unfold RunsBefore
  omega

/-- Whether a handler is for a lineage and of the lowest priority. -/
def HandlerEntry.isLowestFor (lineage : List TypeKey) (entry : HandlerEntry σ) : Bool :=
  entry.key ∈ lineage ∧ entry.info.priority = .lowest

/-- What runs before a place is what the running order has in front of it. -/
theorem HandlerTable.mem_ahead_iff {table : HandlerTable σ} {lineage : List TypeKey}
    {first last : List Nat} {place other : Nat}
    (order : table.runningOrder lineage = first ++ place :: last) :
    other ∈ first ↔ other ∈ table.runningOrder lineage ∧ table.RunsBefore other place := by
  have sorted := @pairwise_runningOrder σ table lineage
  rw [order, List.pairwise_append, List.pairwise_cons] at sorted
  obtain ⟨-, ⟨behind, -⟩, ahead⟩ := sorted
  constructor
  · intro inFirst
    exact ⟨order ▸ List.mem_append_left _ inFirst, ahead other inFirst place List.mem_cons_self⟩
  · rintro ⟨runs, before⟩
    rw [order, List.mem_append, List.mem_cons] at runs
    rcases runs with inFirst | rfl | inLast
    · exact inFirst
    · exact absurd rfl before.ne
    · exact absurd rfl (before.trans (behind other inLast)).ne

/-- The running order of a lineage up to a handler of the lowest priority. -/
theorem HandlerTable.runningOrder_of_lowest {table : HandlerTable σ} {lineage : List TypeKey}
    (holds : table.entries = before ++ entry :: after) (fits : entry.isLowestFor lineage = true) :
    ∃ last, table.runningOrder lineage
      = placesWhere before (·.isLowestFor lineage) ++ before.length :: last := by
  obtain ⟨within, lowest⟩ := of_decide_eq_true fits
  have here : table.entries[before.length]? = some entry := by simp [holds]
  have rank := (rankAt_eq_zero_iff here).2 lowest
  have below_iff {place : Nat} (below : place < before.length) :
      table.entries[place]? = before[place]? := by
    rw [holds, List.getElem?_append_left below]
  obtain ⟨first, last, order⟩ :=
    List.append_of_mem ((mem_runningOrder _ lineage).2 ⟨entry, here, within⟩)
  have early {place : Nat} (inFirst : place ∈ first) :
      table.rankAt place = 0 ∧ place < before.length :=
    (runsBefore_lowest_iff rank).1 ((mem_ahead_iff order).1 inFirst).2
  refine ⟨last, order.trans (congrArg (· ++ _) ?_)⟩
  -- both lists of places ascend, so it is enough that they have the same members
  refine List.Pairwise.eq_of_mem_iff (r := (· < ·)) ?_ (ascending_placesWhere before _) ?_
  · have sorted := @pairwise_runningOrder σ table lineage
    rw [order] at sorted
    refine (List.pairwise_append.1 sorted).1.imp_of_mem ?_
    intro place other inFirst otherInFirst runs
    exact ((runsBefore_lowest_iff (early otherInFirst).1).1 runs).2
  · intro place
    rw [mem_placesWhere]
    constructor
    · intro inFirst
      obtain ⟨lowestThere, below⟩ := early inFirst
      obtain ⟨found, present, keyed⟩ := (mem_runningOrder place lineage).1 ((mem_ahead_iff order).1 inFirst).1
      exact ⟨found, below_iff below ▸ present,
        decide_eq_true ⟨keyed, (rankAt_eq_zero_iff present).1 lowestThere⟩⟩
    · rintro ⟨found, present, suits⟩
      obtain ⟨keyed, lowestThere⟩ := of_decide_eq_true suits
      have below := (List.getElem?_eq_some_iff.1 present).1
      rw [← below_iff below] at present
      exact (mem_ahead_iff order).2 ⟨(mem_runningOrder place lineage).2 ⟨found, present, keyed⟩,
        (runsBefore_lowest_iff rank).2 ⟨(rankAt_eq_zero_iff present).2 lowestThere, below⟩⟩

/-- The handlers that run before one of the lowest priority are those of that priority that were registered
earlier, in the order in which they were; all others for the lineage run after it. -/
theorem handlersFor_of_lowest {table : HandlerTable σ} (wrappers : WrapperRegistry) {key : TypeKey}
    (holds : table.entries = before ++ entry :: after)
    (fits : entry.isLowestFor (wrappers.lineage key) = true) :
    let early := before.filter (·.isLowestFor (wrappers.lineage key))
    ∃ late, (table.build wrappers).handlersFor key = early ++ entry :: late
      ∧ (early ++ late).Perm ((before ++ after).filter (·.key ∈ wrappers.lineage key)) := by
  intro early
  obtain ⟨last, order⟩ := HandlerTable.runningOrder_of_lowest holds fits
  have here : table.entries[before.length]? = some entry := by simp [holds]
  have handlers : (table.build wrappers).handlersFor key
      = early ++ entry :: last.filterMap (table.entries[·]?) := by
    rw [Dispatcher.handlersFor, HandlerTable.placesFor_build]
    show (table.runningOrder _).filterMap (table.entries[·]?) = _
    rw [order, List.filterMap_append, List.filterMap_cons_some here, holds, filterMap_placesWhere]
  refine ⟨_, handlers, ?_⟩
  have kept : (entry :: after).filter (·.key ∈ wrappers.lineage key)
      = entry :: after.filter (·.key ∈ wrappers.lineage key) := by
    simp [(of_decide_eq_true fits).1]
  have all : (early ++ entry :: last.filterMap (table.entries[·]?)).Perm
      (before.filter (·.key ∈ wrappers.lineage key)
        ++ entry :: after.filter (·.key ∈ wrappers.lineage key)) := by
    have every := perm_handlersFor table wrappers key
    rw [congrArg (List.filter _) holds, List.filter_append, kept, handlers] at every
    exact every
  rw [List.filter_append]
  exact (List.perm_middle.symm.trans (all.trans List.perm_middle)).cons_inv

end Positions

section Courses

variable {σ : Type} [Journaled σ] {entries others : List (HandlerEntry σ)} {event last : Event}
  {state final : σ} {visits : List Visit}

/-- A course through handlers and others goes through the handlers first. -/
theorem Course.split (course : Course (entries ++ others) event state visits last final) :
    ∃ earlier later reached between, visits = earlier ++ later
      ∧ Course entries event state earlier reached between
      ∧ Course others reached between later last final := by
  induction entries generalizing event state visits with
  | nil => exact ⟨[], visits, event, state, rfl, .done, course⟩
  | cons entry rest ih =>
      cases course with
      | skip ignores cancelled later =>
          obtain ⟨earlier, behind, reached, between, rfl, first, second⟩ := ih later
          exact ⟨_ :: earlier, behind, reached, between, rfl, .skip ignores cancelled first, second⟩
      | invoke runs later =>
          obtain ⟨earlier, behind, reached, between, rfl, first, second⟩ := ih later
          exact ⟨_ :: earlier, behind, reached, between, rfl, .invoke runs first, second⟩

/-- What an event is about stays the same. -/
theorem Course.occurrence_eq (course : Course entries event state visits last final) :
    last.occurrence = event.occurrence := by
  induction course with
  | done => rfl
  | skip _ _ _ ih => exact ih
  | invoke _ _ ih => exact ih

end Courses

/-- Every event type is in its own lineage. -/
theorem WrapperRegistry.self_mem_lineage (registry : WrapperRegistry) (key : TypeKey) :
    key ∈ registry.lineage key := by
  rw [lineage]
  split
  · exact List.mem_singleton_self key
  · next entry found =>
      have same : entry.wrapper = key := by simpa using List.find?_some found
      rw [InterfaceGraph.lineage, same]
      exact List.mem_cons_self

end ScriptBridge
