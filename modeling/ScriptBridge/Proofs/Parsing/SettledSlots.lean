import ScriptBridge.Proofs.Parsing.Report
import ScriptBridge.Proofs.Pattern.SlotOrder
/-!
Slots are settled by number. A matcher keeps what it reads in a row of cells, where a slot has the cell of its
number, and fills cells of slots that were left out with their defaults, looking up slot and cell by number
without a check. On the slots of a built pattern that cannot go wrong: every number belongs to a slot, no slot
is settled twice, and what stands in the cells in the end is what a match tells.
-/

namespace ScriptBridge.Parsing

/-- A row of cells for slots, with the expressions that slots are bound to. -/
abbrev Cells := List (Option Expression)

namespace Cells

/-- What stands in the cell of a number; a cell that is not there holds nothing. -/
def holds (cells : Cells) (index : Nat) : Option Expression :=
  cells[index]?.join

/-- Puts an expression into the cell of a number; the row grows up to that cell. -/
def put (cells : Cells) (index : Nat) (expression : Expression) : Cells :=
  (cells ++ List.replicate (index + 1 - cells.length) none).set index (some expression)

/-- The row made longer or shorter. -/
def resize (cells : Cells) (count : Nat) : Cells :=
  cells.take count ++ List.replicate (count - cells.length) none

/-- Fills the cells of slots that were left out, one number after the other. A cell that holds something is left
alone, and so is one whose slot has no default. The outcome is nothing if a number has no slot or no cell. -/
def fill (source : Source) (slots : List Slot) : List Nat → Cells → Option Cells
  | [], cells => some cells
  | index :: rest, cells =>
    match slots[index]?, cells[index]? with
    | some slot, some cell =>
      fill source slots rest
        (if cell.isNone && !slot.noDefault then cells.set index (source.defaultFor slot) else cells)
    | _, _ => none

end Cells

/-- The row of cells after everything that was read is put into it, the last slot first. -/
def Bindings.cells (bindings : Bindings) : Cells :=
  bindings.bound.foldr (fun (index, expression) cells => Cells.put cells index expression) []

/-- The numbers of the slots that are settled: those that were read, and those that were left out. -/
def Bindings.settled (bindings : Bindings) : List Nat :=
  bindings.bound.map Prod.fst ++ bindings.skipped

/-! ### Cells -/

namespace Cells

variable {cells : Cells} {index other count : Nat} {expression : Expression}

theorem length_put : (put cells index expression).length = max cells.length (index + 1) := by
  simp only [put, List.length_set, List.length_append, List.length_replicate]
  omega

/-- Room that is added to the row is empty. -/
theorem holds_append_empty (cells : Cells) (room index : Nat) :
    holds (cells ++ List.replicate room none) index = holds cells index := by
  rw [holds, holds, List.getElem?_append]
  split
  · rfl
  · next beyond =>
      rw [List.getElem?_eq_none (Nat.le_of_not_lt beyond), List.getElem?_replicate]
      split <;> rfl

theorem holds_put : holds (put cells index expression) other
    = if index = other then some expression else holds cells other := by
  by_cases same : index = other
  · subst same
    have inside : index < (cells ++ List.replicate (index + 1 - cells.length) none).length := by
      simp only [List.length_append, List.length_replicate]
      omega
    rw [if_pos rfl, holds, put, List.getElem?_set_self inside]
    rfl
  · rw [if_neg same, ← holds_append_empty cells (index + 1 - cells.length), holds, put,
      List.getElem?_set_ne same]
    rfl

theorem length_resize (cells : Cells) (count : Nat) : (resize cells count).length = count := by
  simp only [resize, List.length_append, List.length_take, List.length_replicate]
  omega

/-- A row that is not too long loses nothing when it is resized. -/
theorem holds_resize (fits : cells.length ≤ count) (index : Nat) :
    holds (resize cells count) index = holds cells index := by
  rw [resize, List.take_of_length_le fits, holds_append_empty]

/-- Two rows of one length that hold the same are the same. -/
theorem ext_holds {row : Cells} (sameLength : row.length = cells.length)
    (same : ∀ index < cells.length, holds row index = holds cells index) : row = cells := by
  apply List.ext_getElem sameLength
  intro index inRow inCells
  have held := same index inCells
  rwa [holds, holds, List.getElem?_eq_getElem inRow, List.getElem?_eq_getElem inCells] at held

/-- What the cell of a slot is filled with: its default, unless it has none. -/
def fallback (source : Source) (slots : List Slot) (index : Nat) : Option Expression :=
  slots[index]?.bind fun slot => if slot.noDefault then none else source.defaultFor slot

/-- If every number has a slot and a cell, filling succeeds. It leaves what cells hold, and puts defaults into
the empty cells that are listed. -/
theorem exists_fill {source : Source} {slots : List Slot} {order : List Nat}
    (placed : ∀ index ∈ order, index < slots.length) (within : slots.length ≤ cells.length) :
    ∃ filled, fill source slots order cells = some filled ∧ filled.length = cells.length
      ∧ ∀ index, holds filled index = (holds cells index).or
          (if index ∈ order then fallback source slots index else none) := by
  induction order generalizing cells with
  | nil => exact ⟨cells, rfl, rfl, fun index => by simp⟩
  | cons first rest ih =>
      obtain ⟨here, placed⟩ := List.forall_mem_cons.1 placed
      have inCells : first < cells.length := Nat.lt_of_lt_of_le here within
      obtain ⟨slot, isSlot⟩ : ∃ slot, slots[first]? = some slot :=
        ⟨_, List.getElem?_eq_getElem here⟩
      obtain ⟨cell, isCell⟩ : ∃ cell, cells[first]? = some cell :=
        ⟨_, List.getElem?_eq_getElem inCells⟩
      have held : holds cells first = cell := by rw [holds, isCell, Option.join_some]
      generalize taken : (if cell.isNone && !slot.noDefault
        then cells.set first (source.defaultFor slot) else cells) = next
      have sameLength : next.length = cells.length := by
        rw [← taken]
        split <;> simp
      have first_next : holds next first = cell.or (fallback source slots first) := by
        have room : ∀ value, holds (cells.set first value) first = value := by
          intro value
          rw [holds, List.getElem?_set_self inCells, Option.join_some]
        rw [← taken, fallback, isSlot, Option.bind_some]
        cases cell with
        | some expression => simpa using held
        | none => cases slot.noDefault <;> simp [room, held]
      have others_next : ∀ index, index ≠ first → holds next index = holds cells index := by
        intro index differs
        rw [← taken]
        split
        · rw [holds, List.getElem?_set_ne (Ne.symm differs)]
          rfl
        · rfl
      obtain ⟨filled, fills, length, holding⟩ := ih placed (sameLength ▸ within)
      refine ⟨filled, ?_, length.trans sameLength, fun index => ?_⟩
      · simp only [fill, isSlot, isCell, taken, fills]
      · rw [holding]
        by_cases same : index = first
        · subst same
          rw [first_next, held]
          cases cell <;> cases fallback source slots index <;> simp
        · simp [others_next index same, same]

end Cells

/-! ### The cells of a match -/

namespace Bindings

variable {bindings : Bindings}

/-- A cell holds what was read first of all that was bound to its number. -/
theorem holds_cells (bindings : Bindings) (index : Nat) :
    Cells.holds bindings.cells index = (bindings.bound.find? (·.1 = index)).map Prod.snd := by
  unfold cells
  induction bindings.bound with
  | nil => rfl
  | cons binding rest ih =>
      obtain ⟨number, expression⟩ := binding
      rw [List.foldr_cons, Cells.holds_put, ih, List.find?_cons]
      by_cases same : number = index <;> simp [same]

/-- The row is no longer than the bound numbers need. -/
theorem length_cells_le {count : Nat} (bounded : ∀ binding ∈ bindings.bound, binding.1 < count) :
    bindings.cells.length ≤ count := by
  unfold cells
  generalize bindings.bound = bound at bounded
  induction bound with
  | nil => exact Nat.zero_le count
  | cons binding rest ih =>
      obtain ⟨here, bounded⟩ := List.forall_mem_cons.1 bounded
      rw [List.foldr_cons, Cells.length_put]
      exact Nat.max_le.2 ⟨ih bounded, here⟩

end Bindings

/-- The settled numbers are those of the slots that decisions settle. -/
theorem settled_perm (way : List Decision) :
    (bindingsOf way).settled.Perm ((way.flatMap Decision.slots).map Slot.index) := by
  induction way with
  | nil => exact .nil
  | cons decision rest ih =>
      rw [List.flatMap_cons, List.map_append]
      cases decision with
      | branch number tag => exact ih
      | take tag => exact ih
      | read slot start stop expression => exact ih.cons slot.index
      | skip slots =>
          refine List.Perm.trans ?_ (ih.append_left (slots.map Slot.index))
          have moved := List.perm_append_comm_assoc ((bindingsOf rest).bound.map Prod.fst)
            (slots.map Slot.index) (bindingsOf rest).skipped
          exact moved

/-- What stands in the filled cells is what slots are bound to. -/
theorem slotValue_eq (source : Source) (slots : List Slot) (bindings : Bindings) (index : Nat) :
    source.slotValue slots bindings index = (Cells.holds bindings.cells index).or
      (if index ∈ bindings.skipped then Cells.fallback source slots index else none) := by
  rw [Source.slotValue, Bindings.holds_cells, Cells.fallback]
  cases bindings.bound.find? (·.1 = index) with
  | some binding => rfl
  | none =>
      simp only [List.contains_iff_mem, Option.map_none, Option.none_or]
      split
      · cases slots[index]? <;> rfl
      · rfl

theorem holds_toMatch (session : Session) (pattern : Pattern) (number : Nat) (bindings : Bindings)
    {index : Nat} (below : index < pattern.slotCount) :
    Cells.holds (session.source.toMatch session.tokens pattern number bindings).slots index
      = session.source.slotValue pattern.slots bindings index := by
  simp [Cells.holds, Source.toMatch, below]

/-- Each slot of a match is settled once, under the number of its place, and the row of cells can be filled. -/
structure Settles (session : Session) (pattern : Pattern) (bindings : Bindings) (found : Match) :
    Prop where
  once : bindings.settled.Nodup
  placed : ∀ index ∈ bindings.settled, ∃ slot, pattern.slots[index]? = some slot
    ∧ slot.index = index ∧ index < pattern.slotCount ∧ index < found.slots.length
  noneLost : bindings.cells.length ≤ pattern.slotCount
  filled : ∀ order, order.Perm bindings.skipped →
    (bindings.cells.resize pattern.slotCount).fill session.source pattern.slots order = some found.slots

/-- What a derivation comes to settles each slot once. -/
theorem settles_of_derives {session : Session} {pattern : Pattern} {way : List Decision}
    (indices : pattern.slots.map Slot.index = List.range pattern.slotCount)
    (derives : session.Derives pattern way) (number : Nat) :
    Settles session pattern (bindingsOf way)
      (session.source.toMatch session.tokens pattern number (bindingsOf way)) := by
  have perm := settled_perm way
  have count : pattern.slots.length = pattern.slotCount := by
    simpa using congrArg List.length indices
  have size : (session.source.toMatch session.tokens pattern number (bindingsOf way)).slots.length
      = pattern.slotCount := by
    simp [Source.toMatch]
  have places : ∀ index ∈ (bindingsOf way).settled, ∃ slot, pattern.slots[index]? = some slot
      ∧ slot.index = index ∧ index < pattern.slotCount := by
    intro index settled
    obtain ⟨slot, met, rfl⟩ := List.mem_map.1 (perm.mem_iff.1 settled)
    obtain ⟨found, below⟩ := Pattern.getElem?_index indices (derives.slots_sublist.subset met)
    exact ⟨slot, found, rfl, below⟩
  have below : ∀ index ∈ (bindingsOf way).settled, index < pattern.slotCount := by
    intro index settled
    obtain ⟨_, _, _, below⟩ := places index settled
    exact below
  have noneLost : (bindingsOf way).cells.length ≤ pattern.slotCount := by
    refine Bindings.length_cells_le fun binding bound => below _ ?_
    exact List.mem_append_left _ (List.mem_map_of_mem bound)
  refine ⟨?_, ?_, noneLost, ?_⟩
  · exact perm.nodup_iff.2 (derives.apart indices)
  · intro index settled
    obtain ⟨slot, found, same, below⟩ := places index settled
    exact ⟨slot, found, same, below, size ▸ below⟩
  · intro order sameNumbers
    have length := Cells.length_resize (bindingsOf way).cells pattern.slotCount
    have placed : ∀ index ∈ order, index < pattern.slots.length := by
      intro index listed
      rw [count]
      exact below index (List.mem_append_right _ (sameNumbers.mem_iff.1 listed))
    have within := Nat.le_of_eq (count.trans length.symm)
    obtain ⟨filled, fills, sameLength, holding⟩ := Cells.exists_fill placed within
    rw [fills, Option.some.injEq]
    refine Cells.ext_holds ((sameLength.trans length).trans size.symm) fun index inside => ?_
    rw [size] at inside
    rw [holding, Cells.holds_resize noneLost, holds_toMatch _ _ _ _ inside, slotValue_eq]
    simp only [sameNumbers.mem_iff]

/-- Slots are numbered in their order from left to right, however deep they stand in groups, and resolving keeps
that. So in every match all settled numbers are below the number of slots, no slot is read and left out or read
twice, and no slot or cell is missing when the defaults of the slots that were left out are filled in. -/
theorem slots_settled_once {pattern : Pattern} (built : pattern.Built) :
    pattern.slots.map Slot.unresolved = Syntax.slotsIn pattern.source.toList
      ∧ pattern.slots.length = pattern.slotCount
      ∧ (∀ index (slot : Slot), pattern.slots[index]? = some slot → slot.index = index)
      ∧ ∀ session number found, session.match? number pattern = some found →
          ∃ bindings, matchPattern session.readSlot session.tokens pattern = some bindings
            ∧ Settles session pattern bindings found := by
  have indices := built.indices
  have count : pattern.slots.length = pattern.slotCount := by
    simpa using congrArg List.length indices
  refine ⟨built.slots_eq, count, ?_, ?_⟩
  · intro index slot listed
    have numbered := congrArg (·[index]?) indices
    simp only [List.getElem?_map, listed, Option.map_some] at numbered
    obtain ⟨_, same⟩ := List.getElem?_eq_some_iff.1 numbered.symm
    rw [← same, List.getElem_range]
  · intro session number found matched
    obtain ⟨bindings, bound, rfl⟩ := Option.map_eq_some_iff.1 matched
    obtain ⟨way, isFirst, rfl⟩ := (matchPattern_finds session.readSlot _ pattern).eq_some_iff.1 bound
    have derives : session.Derives pattern way := isFirst.holds
    exact ⟨_, bound, settles_of_derives indices derives number⟩

/-- Two of the three slots are left out with the group that they stand in, one of them in a group inside it. -/
theorem slots_settled_once_nested :
    ∃ compiled pattern found bindings,
      Pattern.compile "(greet|hail) %name% [(from|[out] of) %name% [and %-name%]]" = .ok compiled
      ∧ compiled.resolve namesOnly.slotType = .ok pattern
      ∧ (withTypes namesOnly "hail ann").match? 0 pattern = some found
      ∧ found.slots.map (·.map Expression.describe) = [some "ann", some "anyone", none]
      ∧ pattern.slots.map Slot.unresolved = Syntax.slotsIn pattern.source.toList
      ∧ matchPattern (withTypes namesOnly "hail ann").readSlot (withTypes namesOnly "hail ann").tokens pattern
        = some bindings
      ∧ Settles (withTypes namesOnly "hail ann") pattern bindings found := by
  have computed :
      ((((Pattern.compile "(greet|hail) %name% [(from|[out] of) %name% [and %-name%]]").toOption.bind
        fun compiled => (compiled.resolve namesOnly.slotType).toOption).bind
        fun pattern => (withTypes namesOnly "hail ann").match? 0 pattern).map fun found =>
          found.slots.map (·.map Expression.describe)) = some [some "ann", some "anyone", none] := by
    decide +kernel
  obtain ⟨found, matched, told⟩ := Option.map_eq_some_iff.1 computed
  obtain ⟨pattern, resolved, matched⟩ := Option.bind_eq_some_iff.1 matched
  obtain ⟨compiled, compiles, resolves⟩ := Option.bind_eq_some_iff.1 resolved
  have compiles := eq_ok_of_toOption compiles
  have resolves := eq_ok_of_toOption resolves
  obtain ⟨inOrder, -, -, settled⟩ := slots_settled_once (.resolved (.compiled compiles) resolves)
  obtain ⟨bindings, bound, settles⟩ := settled _ _ _ matched
  exact ⟨compiled, pattern, found, bindings, compiles, resolves, matched, told, inOrder, bound, settles⟩

end ScriptBridge.Parsing
