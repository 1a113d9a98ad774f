import ScriptBridge.Proofs.Pattern.Layout
import ScriptBridge.Proofs.Registration.Settling
/-!
The order of slots. A scan over the text of a pattern that knows nothing of groups, branches and tags finds the
texts between percent signs from left to right. The slots of the compiled pattern are those texts in that
order, numbered from zero, however deep in groups they stand; and resolving gives them their types and changes
nothing else about them.
-/

namespace ScriptBridge

namespace Syntax

/-- The texts between percent signs, from left to right; what stands behind a backslash is no percent sign. If
the scan begins behind one, `body?` is what was read behind it so far. -/
def bodiesFrom : (body? : Option (List Char)) → List Char → List (List Char)
  | _, [] => []
  | none, '\\' :: _ :: rest => bodiesFrom none rest
  | none, c :: rest => if c = '%' then bodiesFrom (some []) rest else bodiesFrom none rest
  | some body, c :: rest =>
    if c = '%' then body :: bodiesFrom none rest else bodiesFrom (some (body ++ [c])) rest

/-- The slots that these texts stand for, numbered from the first number on. -/
def slotsFrom (number : Nat) (bodies : List (List Char)) : List Slot :=
  (bodies.zipIdx number).map fun (body, index) => slotOf index body

/-- The slots in a text from left to right, numbered from zero. -/
def slotsIn (text : List Char) : List Slot :=
  slotsFrom 0 (bodiesFrom none text)

theorem slotsFrom_append (number : Nat) (bodies others : List (List Char)) :
    slotsFrom number (bodies ++ others)
      = slotsFrom number bodies ++ slotsFrom (number + bodies.length) others := by
  rw [slotsFrom, List.zipIdx_append, List.map_append]
  rfl

section Scanning

variable {c : Char} {body rest : List Char}

theorem bodiesFrom_ordinary (ordinary : c ≠ '%') (unescaped : c ≠ '\\') :
    bodiesFrom none (c :: rest) = bodiesFrom none rest := by
  cases rest <;> simp [bodiesFrom, ordinary, unescaped]

theorem bodiesFrom_inside (closed : '%' ∉ body) (before : List Char) :
    bodiesFrom (some before) (body ++ '%' :: rest) = (before ++ body) :: bodiesFrom none rest := by
  induction body generalizing before with
  | nil => simp [bodiesFrom]
  | cons c body ih =>
      rw [List.mem_cons, not_or] at closed
      rw [List.cons_append, bodiesFrom, if_neg (Ne.symm closed.1), ih closed.2, List.append_assoc]
      rfl

/-- A text between two percent signs is found, and the scan goes on behind them. -/
theorem bodiesFrom_slot (closed : '%' ∉ body) :
    bodiesFrom none ('%' :: body ++ '%' :: rest) = body :: bodiesFrom none rest := by
  have opens : bodiesFrom none ('%' :: (body ++ '%' :: rest))
      = bodiesFrom (some []) (body ++ '%' :: rest) := by
    cases body <;> simp [bodiesFrom]
  rw [List.cons_append, opens, bodiesFrom_inside closed, List.nil_append]

theorem ne_of_not_mem_marks (ordinary : c ∉ marks) : c ≠ '%' ∧ c ≠ '\\' := by
  constructor
  · rintro rfl
    exact ordinary (by decide)
  · rintro rfl
    exact ordinary (by decide)

end Scanning

/-- Whatever stands behind it, the scan finds these slots in the text, numbered from one number up to the
next. -/
def Lists (text : List Char) (number next : Nat) (slots : List Slot) : Prop :=
  ∃ bodies, slots = slotsFrom number bodies ∧ next = number + bodies.length
    ∧ ∀ rest, bodiesFrom none (text ++ rest) = bodies ++ bodiesFrom none rest

namespace Lists

variable {number middle next : Nat} {text others : List Char} {slots more : List Slot} {c : Char}

theorem nil (number : Nat) : Lists [] number number [] :=
  ⟨[], rfl, rfl, fun _ => rfl⟩

theorem append (first : Lists text number middle slots) (second : Lists others middle next more) :
    Lists (text ++ others) number next (slots ++ more) := by
  obtain ⟨bodies, rfl, rfl, found⟩ := first
  obtain ⟨later, rfl, rfl, foundLater⟩ := second
  refine ⟨bodies ++ later, (slotsFrom_append ..).symm, by simp [Nat.add_assoc], fun rest => ?_⟩
  rw [List.append_assoc, found, foundLater, List.append_assoc]

theorem ordinary (ordinary : c ≠ '%') (unescaped : c ≠ '\\') (number : Nat) :
    Lists [c] number number [] :=
  ⟨[], rfl, rfl, fun _ => bodiesFrom_ordinary ordinary unescaped⟩

theorem cons (ordinary : c ≠ '%') (unescaped : c ≠ '\\') (lists : Lists text number next slots) :
    Lists (c :: text) number next slots :=
  (Lists.ordinary ordinary unescaped number).append lists

theorem escaped (c : Char) (lists : Lists text number next slots) :
    Lists ('\\' :: c :: text) number next slots := by
  have pair : Lists ['\\', c] number number [] := ⟨[], rfl, rfl, fun rest => by simp [bodiesFrom]⟩
  exact pair.append lists

theorem slot {body : List Char} (closed : '%' ∉ body) (lists : Lists text (number + 1) next slots) :
    Lists ('%' :: body ++ '%' :: text) number next (slotOf number body :: slots) := by
  have one : Lists ('%' :: body ++ ['%']) number (number + 1) [slotOf number body] := by
    refine ⟨[body], rfl, rfl, fun rest => ?_⟩
    rw [List.append_assoc, List.singleton_append, bodiesFrom_slot closed, List.singleton_append]
  simpa using one.append lists

/-- In a word there is no slot. -/
theorem word {word : List Char} (letters : ∀ c ∈ word, Text.isWordChar c = true)
    (lists : Lists text number next slots) : Lists (word ++ text) number next slots := by
  induction word with
  | nil => exact lists
  | cons c word ih =>
      obtain ⟨letter, letters⟩ := List.forall_mem_cons.1 letters
      obtain ⟨ordinary, unescaped⟩ := ne_of_not_mem_marks (not_mem_marks_of_isWordChar letter).1
      exact (ih letters).cons ordinary unescaped

/-- Brackets around a group are no percent signs. -/
theorem bracketed (bracket : Bracket) (inside : Lists text number middle slots)
    (rest : Lists others middle next more) :
    Lists (bracket.opening :: text ++ bracket.closing :: others) number next (slots ++ more) := by
  have opening : bracket.opening ≠ '%' ∧ bracket.opening ≠ '\\' := by
    cases bracket <;> decide
  have closing : bracket.closing ≠ '%' ∧ bracket.closing ≠ '\\' := by
    cases bracket <;> decide
  exact (inside.cons opening.1 opening.2).append (rest.cons closing.1 closing.2)

end Lists

end Syntax

open Syntax

mutual

/-- The slots that the grammar reads in a sequence are those that the scan finds in it. -/
theorem SequenceReads.lists : ∀ {number next : Nat} {run text : List Char} {nodes : List Node},
    SequenceReads number run text nodes next → Lists text number next (slotsOfNodes nodes)
  | number, _, run, _, _, .done => by
      rw [slots_literalsOf]
      exact .nil number
  | _, _, _, _, _, .plain ordinary rest => by
      obtain ⟨ordinary, unescaped⟩ := ne_of_not_mem_marks ordinary
      exact rest.lists.cons ordinary unescaped
  | _, _, _, _, _, .escapedLetter _ rest => rest.lists.escaped _
  | _, _, _, _, _, .escapedMark _ rest => by
      rw [slotsOfNodes_append, slots_literalsOf]
      exact rest.lists.escaped _
  | _, _, _, _, _, .slot closed _ rest => by
      rw [slotsOfNodes_append, slots_literalsOf]
      exact rest.lists.slot closed
  | _, _, _, _, _, @SequenceReads.group _ _ _ _ _ _ bracket _ _ _ holds stands rest => by
      rw [slotsOfNodes_append, slots_literalsOf, List.nil_append, slotsOfNodes, stands.slots]
      exact holds.lists.bracketed bracket rest.lists

theorem BranchReads.lists : ∀ {number next : Nat} {text : List Char} {branch : Branch},
    BranchReads number text branch next → Lists text number next branch.slots
  | _, _, _, _, .tagged _ letters rest =>
      (rest.lists.cons (by decide) (by decide)).word letters
  | _, _, _, _, .untagged _ reads => reads.lists

theorem BranchesRead.lists : ∀ {number next : Nat} {text : List Char} {branches : List Branch},
    BranchesRead number text branches next → Lists text number next (slotsOfBranches branches)
  | _, _, _, _, .last reads => by
      rw [slotsOfBranches, slotsOfBranches, List.append_nil]
      exact reads.lists
  | _, _, _, _, .more reads rest => reads.lists.append (rest.lists.cons (by decide) (by decide))

end

/-- The slot as it is written, without the type that it was resolved to. -/
def Slot.unresolved (slot : Slot) : Slot :=
  { slot with key := none, plural := false }

theorem Slot.unresolved_settle (lookup : TypeLookup) (slot : Slot) :
    (lookup.settle slot).unresolved = slot.unresolved := by
  unfold TypeLookup.settle
  split <;> rfl

theorem Syntax.unresolved_slotsFrom (number : Nat) (bodies : List (List Char)) :
    (slotsFrom number bodies).map Slot.unresolved = slotsFrom number bodies := by
  rw [slotsFrom, List.map_map]
  rfl

namespace Pattern

/-- Resolving settles each slot by itself. -/
theorem eq_mapSlots_of_resolve {lookup : TypeLookup} {pattern resolved : Pattern}
    (resolves : pattern.resolve lookup = .ok resolved) : resolved = pattern.mapSlots lookup.settle := by
  rw [resolve_eq] at resolves
  exact (refuseFirst_eq_ok_iff.1 resolves).2.symm

/-- The slots of a built pattern are those in the text that it was compiled from, in their order from left to
right. -/
theorem Built.slots_eq {pattern : Pattern} (built : pattern.Built) :
    pattern.slots.map Slot.unresolved = slotsIn pattern.source.toList := by
  induction built with
  | @compiled source pattern compiles =>
      obtain ⟨reads, -, same⟩ := reads_of_compile compiles
      obtain ⟨bodies, listed, -, found⟩ := reads.lists
      have all : bodiesFrom none source.toList = bodies := by
        have scanned := found []
        rwa [bodiesFrom, List.append_nil, List.append_nil] at scanned
      rw [slots, listed, unresolved_slotsFrom, slotsIn, same, all]
  | resolved built resolves ih =>
      have kept := eq_mapSlots_of_resolve resolves
      subst kept
      rw [slots_mapSlots, List.map_map]
      exact (List.map_congr_left fun slot _ => Slot.unresolved_settle _ slot).trans ih

end Pattern

end ScriptBridge
