import Mathlib.Data.Prod.Lex
import ScriptBridge.Proofs.Parsing.Wording
/-!
Precedence among entries. A pattern has a place: its entry's and then its own. A line is read as an effect
at the first place where a pattern matches and its entry accepts the match, and a header as an event at the
first place where a pattern matches; entries behind that place have no say, and entries added at the end
are asked only about what all the others refuse.
-/

namespace ScriptBridge

namespace Parsing

/-- A place among the patterns of entries. Places come in the order in which they are tried: by entry, and
for one entry by pattern. -/
abbrev Place := Nat ×ₗ Nat

/-- At a place there is a value, and at the places before it there is none. -/
def FirstAt {α : Type} (at? : Place → Option α) (place : Place) (value : α) : Prop :=
  at? place = some value ∧ ∀ earlier < place, at? earlier = none

/-- What is read is the value at the first place where there is any. -/
structure ReadInOrder {α : Type} (at? : Place → Option α) (read? : Option α) : Prop where
  something : ∀ value, read? = some value ↔ ∃ place, FirstAt at? place value
  nothing : read? = none ↔ ∀ place, at? place = none

/-- A longer list of entries reads what the shorter one reads, at the same place, and all else as the
entries that were added read it. -/
structure Conservative {α : Type} (at? longerAt? : Place → Option α)
    (read? addedRead? longerRead? : Option α) : Prop where
  kept : ∀ place value, FirstAt at? place value → FirstAt longerAt? place value
  added : read? = none → longerRead? = addedRead?

section

variable {ι α : Type} (patterns : ι → List Pattern) (read : ι → Nat → Pattern → Option α)

/-- What the pattern at a place reads. -/
def readAt (entries : List ι) (place : Place) : Option α :=
  entries[(ofLex place).1]?.bind fun entry =>
    (patterns entry)[(ofLex place).2]?.bind (read entry (ofLex place).2)

/-- What the first of an entry's patterns that reads anything reads. -/
def readEntry (entry : ι) : Option α :=
  (patterns entry).zipIdx.findSome? fun (pattern, number) => read entry number pattern

/-- What the first of the entries' patterns that reads anything reads. -/
def readFirst (entries : List ι) : Option α :=
  entries.findSome? (readEntry patterns read)

/-- The first answer of a list is at a place of which none before it answers. -/
theorem findSome?_eq_some_iff_first {β : Type} {answer : β → Option α} {list : List β} {value : α} :
    list.findSome? answer = some value
      ↔ ∃ index : Nat, list[index]?.bind answer = some value
          ∧ ∀ earlier < index, list[earlier]?.bind answer = none := by
  induction list with
  | nil => simp
  | cons head rest ih =>
      rw [List.findSome?_cons]
      cases here : answer head with
      | some other =>
          constructor
          · rintro ⟨⟩
            exact ⟨0, here, fun earlier less => absurd less (Nat.not_lt_zero earlier)⟩
          · rintro ⟨index, found, before⟩
            cases index with
            | zero => exact here.symm.trans found
            | succ index =>
                have nothing : answer head = none := before 0 (Nat.succ_pos index)
                rw [here] at nothing
                cases nothing
      | none =>
          refine ih.trans ⟨?_, ?_⟩
          · rintro ⟨index, found, before⟩
            refine ⟨index + 1, found, fun earlier less => ?_⟩
            cases earlier with
            | zero => exact here
            | succ earlier => exact before earlier (Nat.lt_of_succ_lt_succ less)
          · rintro ⟨index, found, before⟩
            cases index with
            | zero =>
                have nothing : answer head = some value := found
                rw [here] at nothing
                cases nothing
            | succ index =>
                exact ⟨index, found, fun earlier less => before (earlier + 1) (Nat.succ_lt_succ less)⟩

theorem findSome?_eq_none_iff_getElem? {β : Type} {answer : β → Option α} {list : List β} :
    list.findSome? answer = none ↔ ∀ index : Nat, list[index]?.bind answer = none := by
  rw [List.findSome?_eq_none_iff]
  constructor
  · intro refused index
    cases found : list[index]? with
    | none => rfl
    | some element => exact refused element (List.mem_of_getElem? found)
  · intro refused element listed
    obtain ⟨index, found⟩ := List.mem_iff_getElem?.1 listed
    have nothing := refused index
    rwa [found] at nothing

theorem findSome?_flatMap {β γ : Type} (pieces : β → List γ) (answer : γ → Option α)
    (list : List β) :
    (list.flatMap pieces).findSome? answer
      = list.findSome? fun element => (pieces element).findSome? answer := by
  induction list with
  | nil => rfl
  | cons head rest ih =>
      rw [List.flatMap_cons, List.findSome?_append, List.findSome?_cons, ih]
      cases (pieces head).findSome? answer <;> rfl

variable {patterns : ι → List Pattern} {read : ι → Nat → Pattern → Option α} {entries : List ι}
  {value : α}

/-- The numbers of an entry's patterns are their places. -/
theorem getElem?_zipIdx_bind (list : List Pattern) (read : Nat → Pattern → Option α) (index : Nat) :
    (list.zipIdx[index]?.bind fun (pattern, number) => read number pattern)
      = list[index]?.bind (read index) := by
  rw [List.getElem?_zipIdx, Nat.zero_add]
  cases list[index]? <;> rfl

theorem readEntry_eq_some_iff {entry : ι} :
    readEntry patterns read entry = some value
      ↔ ∃ number : Nat, (patterns entry)[number]?.bind (read entry number) = some value
          ∧ ∀ earlier < number, (patterns entry)[earlier]?.bind (read entry earlier) = none := by
  simp only [readEntry, findSome?_eq_some_iff_first, getElem?_zipIdx_bind]

theorem readEntry_eq_none_iff {entry : ι} :
    readEntry patterns read entry = none
      ↔ ∀ number : Nat, (patterns entry)[number]?.bind (read entry number) = none := by
  simp only [readEntry, findSome?_eq_none_iff_getElem?, getElem?_zipIdx_bind]

theorem bind_readEntry_eq_none_iff {index : Nat} :
    entries[index]?.bind (readEntry patterns read) = none
      ↔ ∀ number, readAt patterns read entries (toLex (index, number)) = none := by
  simp only [readAt, ofLex_toLex]
  cases entries[index]? with
  | none => simp
  | some entry => exact readEntry_eq_none_iff

theorem bind_readEntry_eq_some_iff {index : Nat} :
    entries[index]?.bind (readEntry patterns read) = some value
      ↔ ∃ number, readAt patterns read entries (toLex (index, number)) = some value
          ∧ ∀ earlier < number, readAt patterns read entries (toLex (index, earlier)) = none := by
  simp only [readAt, ofLex_toLex]
  cases entries[index]? with
  | none => simp
  | some entry => exact readEntry_eq_some_iff

/-- What is read first is read at one place, the first of all where anything is read. -/
theorem readFirst_eq_some_iff :
    readFirst patterns read entries = some value
      ↔ ∃ place, FirstAt (readAt patterns read entries) place value := by
  rw [readFirst, findSome?_eq_some_iff_first]
  constructor
  · rintro ⟨index, here, before⟩
    obtain ⟨number, here, before_here⟩ := bind_readEntry_eq_some_iff.1 here
    refine ⟨toLex (index, number), here, fun earlier less => ?_⟩
    rcases Prod.Lex.lt_iff.1 less with in_front | ⟨same, in_front⟩
    · exact bind_readEntry_eq_none_iff.1 (before _ in_front) _
    · have nothing := before_here _ in_front
      have same : index = (ofLex earlier).1 := same.symm
      rwa [same] at nothing
  · rintro ⟨place, here, before⟩
    refine ⟨(ofLex place).1, bind_readEntry_eq_some_iff.2 ⟨(ofLex place).2, here, ?_⟩, ?_⟩
    · intro earlier less
      exact before _ (Prod.Lex.lt_iff.2 (.inr ⟨rfl, less⟩))
    · intro earlier less
      refine bind_readEntry_eq_none_iff.2 fun number => ?_
      exact before _ (Prod.Lex.lt_iff.2 (.inl less))

theorem readFirst_eq_none_iff :
    readFirst patterns read entries = none ↔ ∀ place, readAt patterns read entries place = none := by
  rw [readFirst, findSome?_eq_none_iff_getElem?]
  constructor
  · intro refused place
    exact bind_readEntry_eq_none_iff.1 (refused _) _
  · intro refused index
    exact bind_readEntry_eq_none_iff.2 fun number => refused _

theorem readInOrder :
    ReadInOrder (readAt patterns read entries) (readFirst patterns read entries) where
  something _ := readFirst_eq_some_iff
  nothing := readFirst_eq_none_iff

/-- Entries at the end do not displace what those in front of them read. -/
theorem FirstAt.append {place : Place} (first : FirstAt (readAt patterns read entries) place value)
    (more : List ι) : FirstAt (readAt patterns read (entries ++ more)) place value := by
  obtain ⟨here, before⟩ := first
  have within : (ofLex place).1 < entries.length := by
    obtain ⟨entry, found, -⟩ := Option.bind_eq_some_iff.1 here
    exact (List.getElem?_eq_some_iff.1 found).1
  have unchanged {other : Place} (le : (ofLex other).1 ≤ (ofLex place).1) :
      readAt patterns read (entries ++ more) other = readAt patterns read entries other := by
    rw [readAt, List.getElem?_append_left (Nat.lt_of_le_of_lt le within), readAt]
  refine ⟨(unchanged (Nat.le_refl _)).trans here, fun earlier less => ?_⟩
  have le : (ofLex earlier).1 ≤ (ofLex place).1 := by
    rcases Prod.Lex.lt_iff.1 less with in_front | ⟨same, -⟩
    · exact Nat.le_of_lt in_front
    · exact Nat.le_of_eq same
  exact (unchanged le).trans (before earlier less)

/-- Entries at the end are asked only about what those in front of them do not read. -/
theorem conservative_append (more : List ι) :
    Conservative (readAt patterns read entries) (readAt patterns read (entries ++ more))
      (readFirst patterns read entries) (readFirst patterns read more)
      (readFirst patterns read (entries ++ more)) where
  kept _ _ first := first.append more
  added refused := by
    rw [readFirst] at refused
    rw [readFirst, List.findSome?_append, refused, Option.none_or, readFirst]

end

/-- What a header means for the entry of a wrapper, read with one of its patterns. -/
def eventMatch? (session : Session) (entry : WrapperEntry) (number : Nat) (pattern : Pattern) :
    Option EventMatch :=
  (session.match? number pattern).map fun found =>
    { event := entry.wrapper, name := entry.name, found }

end Parsing

open Parsing

/-- What the line was read as. -/
def EffectSearch.accepted? (search : EffectSearch) : Option Acceptance :=
  search.attempts.getLast?.bind Attempt.accepted?

theorem EffectSearch.effect?_eq (search : EffectSearch) :
    search.effect? = search.accepted?.map Acceptance.effect :=
  getLast?_effect search.attempts

namespace Registries

/-- What the pattern at a place among the effects reads a line as. -/
def effectAt (registries : Registries) (world : World) (text : String) (options : ParseOptions) :
    Place → Option Acceptance :=
  readAt EffectEntry.patterns (acceptance? (Session.ofText registries world options text))
    registries.grammar.effects

/-- What the pattern at a place among the wrappers reads a header as. -/
def eventAt (registries : Registries) (world : World) (text : String) : Place → Option EventMatch :=
  readAt WrapperEntry.patterns
    (eventMatch? (Session.ofText registries world { context := .event } text))
    registries.wrappers.entries

/-- A line is read as an effect by the first entry that accepts a match of it. -/
theorem searchEffect_accepted? (registries : Registries) (world : World) (text : String)
    (options : ParseOptions) :
    (registries.searchEffect world text options).accepted?
      = readFirst EffectEntry.patterns (acceptance? (Session.ofText registries world options text))
          registries.grammar.effects := by
  rw [EffectSearch.accepted?, searchEffect, attempts_accepted, effectCandidates,
    findSome?_flatMap]
  refine congrArg (List.findSome? · _) (funext fun entry => ?_)
  exact List.findSome?_map

/-- A header is read as the event of the first wrapper that matches it. -/
theorem parseEvent_eq (registries : Registries) (world : World) (text : String) :
    registries.parseEvent world text
      = readFirst WrapperEntry.patterns
          (eventMatch? (Session.ofText registries world { context := .event } text))
          registries.wrappers.entries := by
  simp only [parseEvent, readFirst, List.map_findSome?]
  rfl

end Registries

end ScriptBridge
