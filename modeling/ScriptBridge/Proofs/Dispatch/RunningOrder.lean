import ScriptBridge.Dispatch.Dispatcher
/-!
The order in which handlers run. The places that an event goes through are collected key by key along its
lineage, sorted, and rid of repeats. Main statements: they are exactly the places of handlers for a key
of the lineage, in strictly ascending order; and the order found for a registered wrapper when the
dispatcher is built and the one found for any other event type are this one order.
-/

namespace ScriptBridge

section Repeats

variable {α : Type} [BEq α] [LawfulBEq α]

theorem mem_eraseRepsBy_loop (x first : α) (rest kept : List α) :
    x ∈ List.eraseRepsBy.loop (· == ·) first rest kept ↔ x ∈ kept ∨ x = first ∨ x ∈ rest := by
  induction rest generalizing first kept with
  | nil => simp [List.eraseRepsBy.loop, or_comm]
  | cons second rest ih =>
      rw [List.eraseRepsBy.loop]
      split
      · next same =>
          rw [ih, eq_of_beq same, List.mem_cons]
          grind
      · rw [ih, List.mem_cons, List.mem_cons]
        grind

/-- Dropping repeats loses no element. -/
theorem mem_eraseReps (x : α) (list : List α) : x ∈ list.eraseReps ↔ x ∈ list := by
  cases list with
  | nil => rfl
  | cons first rest =>
      have loop := mem_eraseRepsBy_loop x first rest []
      simpa [List.eraseReps, List.eraseRepsBy] using loop

variable {R : α → α → Prop}

/-- What has been kept so far, latest first, comes before everything that is left. -/
theorem pairwise_eraseRepsBy_loop (trans : ∀ x y z, R x y → R y z → R x z) {first : α}
    {rest kept : List α} (sorted : (first :: rest).Pairwise fun x y => R x y ∨ x = y)
    (keptSorted : kept.Pairwise fun x y => R y x)
    (below : ∀ x ∈ kept, ∀ y ∈ first :: rest, R x y) :
    (List.eraseRepsBy.loop (· == ·) first rest kept).Pairwise R := by
  induction rest generalizing first kept with
  | nil =>
      rw [List.eraseRepsBy.loop, List.pairwise_reverse, List.pairwise_cons]
      exact ⟨fun x listed => below x listed first (by simp), keptSorted⟩
  | cons second rest ih =>
      rw [List.eraseRepsBy.loop]
      obtain ⟨head, tailSorted⟩ := List.pairwise_cons.1 sorted
      split
      · next same =>
          obtain rfl := eq_of_beq same
          exact ih tailSorted keptSorted fun x listed y later =>
            below x listed y (List.mem_cons_of_mem _ later)
      · next different =>
          have apart : first ≠ second := fun same => by simp [same] at different
          have leads : R first second := (head second (by simp)).resolve_right apart
          refine ih tailSorted (List.pairwise_cons.2 ⟨?_, keptSorted⟩) ?_
          · exact fun x listed => below x listed first (by simp)
          · intro x listed y later
            rcases List.mem_cons.1 listed with rfl | listed
            · rcases List.mem_cons.1 later with rfl | later
              · exact leads
              · rcases (List.pairwise_cons.1 tailSorted).1 y later with next | rfl
                · exact trans _ _ _ leads next
                · exact leads
            · exact below x listed y (List.mem_cons_of_mem _ later)

/-- A sorted list without its repeats is strictly sorted. -/
theorem pairwise_eraseReps (trans : ∀ x y z, R x y → R y z → R x z) {list : List α}
    (sorted : list.Pairwise fun x y => R x y ∨ x = y) : list.eraseReps.Pairwise R := by
  cases list with
  | nil => exact .nil
  | cons first rest => exact pairwise_eraseRepsBy_loop trans sorted .nil (by simp)

end Repeats

namespace HandlerTable

variable {σ : Type} (table : HandlerTable σ)

/-- The handler at one place runs before the one at another: by priority, and within one priority in the
order of registration. -/
def RunsBefore (place other : Nat) : Prop :=
  table.rankAt place < table.rankAt other
    ∨ table.rankAt place = table.rankAt other ∧ place < other

variable {table}

theorem RunsBefore.trans {first second third : Nat} (left : table.RunsBefore first second)
    (right : table.RunsBefore second third) : table.RunsBefore first third := by
  unfold RunsBefore at *
  omega

theorem RunsBefore.ne {first second : Nat} (runsBefore : table.RunsBefore first second) :
    first ≠ second := by
  rintro rfl
  unfold RunsBefore at runsBefore
  omega

theorem runsNoLater_iff (place other : Nat) :
    table.runsNoLater place other = true ↔ table.RunsBefore place other ∨ place = other := by
  simp only [runsNoLater, RunsBefore, Bool.or_eq_true, Bool.and_eq_true, decide_eq_true_eq]
  constructor
  · omega
  · rintro (before | rfl)
    · omega
    · exact Or.inr ⟨rfl, Nat.le_refl place⟩

theorem runsNoLater_trans (first second third : Nat) (left : table.runsNoLater first second = true)
    (right : table.runsNoLater second third = true) : table.runsNoLater first third = true := by
  rw [runsNoLater_iff] at *
  rcases left with left | rfl
  · rcases right with right | rfl
    · exact Or.inl (left.trans right)
    · exact Or.inl left
  · exact right

theorem runsNoLater_total (first second : Nat) :
    (table.runsNoLater first second || table.runsNoLater second first) = true := by
  rw [Bool.or_eq_true, runsNoLater_iff, runsNoLater_iff]
  unfold RunsBefore
  omega

/-- The places of a key are those of the handlers that are registered for it. -/
theorem mem_placesOf (place : Nat) (key : TypeKey) :
    place ∈ table.placesOf key ↔ ∃ entry, table.entries[place]? = some entry ∧ entry.key = key := by
  unfold placesOf
  rw [List.mem_map]
  constructor
  · rintro ⟨⟨entry, number⟩, listed, rfl⟩
    rw [List.mem_filter, List.mem_zipIdx_iff_getElem?, decide_eq_true_eq] at listed
    exact ⟨entry, listed⟩
  · rintro ⟨entry, present, keyed⟩
    refine ⟨(entry, place), ?_, rfl⟩
    rw [List.mem_filter, List.mem_zipIdx_iff_getElem?, decide_eq_true_eq]
    exact ⟨present, keyed⟩

/-- A handler has one place, so no place is listed twice under a key. -/
theorem nodup_placesOf (key : TypeKey) : (table.placesOf key).Nodup := by
  unfold placesOf
  have all : (table.entries.zipIdx.map (·.2)).Nodup := by
    rw [List.zipIdx_map_snd]
    exact List.nodup_range'
  exact all.sublist (List.filter_sublist.map _)

/-- The running order has exactly the places of the handlers for some key of the lineage. -/
theorem mem_runningOrder (place : Nat) (lineage : List TypeKey) :
    place ∈ table.runningOrder lineage
      ↔ ∃ entry, table.entries[place]? = some entry ∧ entry.key ∈ lineage := by
  unfold runningOrder
  rw [mem_eraseReps, List.mem_mergeSort, List.mem_flatMap]
  constructor
  · rintro ⟨key, inLineage, listed⟩
    obtain ⟨entry, present, rfl⟩ := (mem_placesOf place key).1 listed
    exact ⟨entry, present, inLineage⟩
  · rintro ⟨entry, present, inLineage⟩
    exact ⟨entry.key, inLineage, (mem_placesOf place entry.key).2 ⟨entry, present, rfl⟩⟩

/-- The running order is strictly ascending, however often the lineage has a key. -/
theorem pairwise_runningOrder (lineage : List TypeKey) :
    (table.runningOrder lineage).Pairwise table.RunsBefore := by
  unfold runningOrder
  refine pairwise_eraseReps (R := table.RunsBefore) (fun _ _ _ => RunsBefore.trans) ?_
  have sorted : ((lineage.flatMap table.placesOf).mergeSort table.runsNoLater).Pairwise
      fun place other => table.runsNoLater place other = true :=
    List.pairwise_mergeSort runsNoLater_trans runsNoLater_total _
  exact sorted.imp fun noLater => (runsNoLater_iff _ _).1 noLater

theorem nodup_runningOrder (lineage : List TypeKey) : (table.runningOrder lineage).Nodup :=
  (pairwise_runningOrder lineage).imp RunsBefore.ne

/-- A single key has as many places in the running order as handlers. -/
theorem length_runningOrder_singleton (key : TypeKey) :
    (table.runningOrder [key]).length = (table.placesOf key).length := by
  refine List.Perm.length_eq ?_
  rw [List.perm_ext_iff_of_nodup (nodup_runningOrder [key]) (nodup_placesOf key)]
  intro place
  rw [mem_runningOrder, mem_placesOf]
  simp only [List.mem_singleton]

/-- Building finds an order for the registered wrappers and for nothing else. -/
theorem get?_resolved (wrappers : WrapperRegistry) (key : TypeKey) :
    (table.build wrappers).resolved.get? key
      = if key ∈ wrappers.entries.map WrapperEntry.wrapper
        then some (table.runningOrder (wrappers.lineage key)) else none := by
  have fold : ∀ (entries : List WrapperEntry) (resolved : Table TypeKey (List Nat)),
      (entries.foldl
        (fun resolved entry =>
          resolved.insert entry.wrapper (table.runningOrder (wrappers.lineage entry.wrapper)))
        resolved).get? key
        = if key ∈ entries.map WrapperEntry.wrapper
          then some (table.runningOrder (wrappers.lineage key)) else resolved.get? key := by
    intro entries
    induction entries with
    | nil =>
        intro resolved
        rfl
    | cons entry rest ih =>
        intro resolved
        rw [List.foldl_cons, ih, Table.get?_insert, List.map_cons]
        by_cases same : entry.wrapper = key
        · simp [same]
        · simp [same, Ne.symm same]
  exact fold wrappers.entries {}

/-- An event type that is not registered has only itself as its lineage. -/
theorem lineage_of_not_registered {wrappers : WrapperRegistry} {key : TypeKey}
    (absent : key ∉ wrappers.entries.map WrapperEntry.wrapper) : wrappers.lineage key = [key] := by
  have missing : wrappers.get? key = none := by
    rw [WrapperRegistry.get?, List.find?_eq_none]
    intro entry listed same
    rw [decide_eq_true_eq] at same
    exact absent (List.mem_map.2 ⟨entry, listed, same⟩)
  rw [WrapperRegistry.lineage, missing]

/-- The order found in advance and the one found at the dispatch are both that of the lineage. -/
theorem placesFor_build (wrappers : WrapperRegistry) (key : TypeKey) :
    (table.build wrappers).placesFor key = table.runningOrder (wrappers.lineage key) := by
  rw [Dispatcher.placesFor, get?_resolved]
  split
  · next found =>
      split at found
      · cases found
        rfl
      · cases found
  · next missing =>
      split at missing
      · cases missing
      · next absent => rw [lineage_of_not_registered absent]; rfl

/-- The number of handlers is that of the places, whether these were found in advance or not. -/
theorem handlerCount_build (wrappers : WrapperRegistry) (key : TypeKey) :
    (table.build wrappers).handlerCount key = (table.runningOrder (wrappers.lineage key)).length := by
  rw [Dispatcher.handlerCount, get?_resolved]
  split
  · next found =>
      split at found
      · cases found
        rfl
      · cases found
  · next missing =>
      split at missing
      · cases missing
      · next absent =>
          rw [lineage_of_not_registered absent, length_runningOrder_singleton]
          rfl

end HandlerTable

end ScriptBridge
