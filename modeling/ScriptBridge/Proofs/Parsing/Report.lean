import Mathlib.Data.List.Nodup
import Mathlib.Data.List.Pairwise
import ScriptBridge.Proofs.Parsing.Typing
import ScriptBridge.Proofs.Pattern.Layout
import ScriptBridge.Proofs.Token.Places
/-!
What a match tells of its derivation. A derivation meets the slots and the branches of its pattern from left
to right, so what it reads and what it leaves out are apart, and no slot is met twice. Since the slots of a
built pattern are numbered in their order, looking bindings up by number loses nothing.
-/

namespace ScriptBridge.Parsing

/-- The slots that a decision settles. -/
def Decision.slots : Decision → List Slot
  | .branch _ _ => []
  | .take _ => []
  | .skip slots => slots
  | .read slot _ _ _ => [slot]

/-- The tag, if any, of the branch that a decision enters, if it enters one. -/
def Decision.entered? : Decision → Option (Option String)
  | .branch _ tag => some tag
  | .take tag => some tag
  | .skip _ => none
  | .read _ _ _ _ => none

/-- The slot stands, at any depth, in an optional group of the pattern that is left out on this way. -/
def LeftOut (pattern : Pattern) (way : List Decision) (slot : Slot) : Prop :=
  ∃ group : Branch, pattern.Contains (.optional group) ∧ Decision.skip group.slots ∈ way
    ∧ group.Contains (.slot slot)

/-- The slot is read on this way. -/
def IsRead (way : List Decision) (slot : Slot) : Prop :=
  ∃ start stop expression, Decision.read slot start stop expression ∈ way

/-- The session on a window of this one, one level deeper. -/
def Session.within (session : Session) (start stop : Nat) : Session where
  source := session.source
  tokens := window session.tokens start stop
  depth := session.depth + 1

/-- Sessions that can be come by: on a whole text, or on a window of one that there is. -/
inductive Session.Opened : Session → Prop where
  | ofText (registries : Registries) (world : World) (options : ParseOptions) (text : String) :
      Session.Opened (.ofText registries world options text)
  | within {session : Session} (opened : Session.Opened session) (start stop : Nat) :
      Session.Opened (session.within start stop)

/-- The match tells of this way through the pattern what it read, left out and entered. -/
structure Reports (session : Session) (pattern : Pattern) (number : Nat) (way : List Decision)
    (found : Match) : Prop where
  which : found.pattern = number
  options : found.options = session.source.options
  size : found.slots.length = pattern.slotCount
  numbered : pattern.slots.map Slot.index = List.range pattern.slotCount
  read : ∀ {slot start stop expression}, Decision.read slot start stop expression ∈ way →
    session.readSlot slot start stop = some expression
      ∧ found.slots[slot.index]? = some (some expression)
  defaults : ∀ {slot}, LeftOut pattern way slot → slot.noDefault = false → ¬ IsRead way slot
    ∧ found.slots[slot.index]? = some (session.source.defaultFor slot)
  empty : ∀ {slot}, slot ∈ pattern.slots → ¬ IsRead way slot →
    ¬ (LeftOut pattern way slot ∧ slot.noDefault = false) → found.slots[slot.index]? = some none
  tags : ∃ branches, List.Sublist branches pattern.branches
    ∧ way.filterMap Decision.entered? = branches.map Branch.tag
    ∧ found.tags = branches.filterMap Branch.tag
  noText : session.tokens = [] → found.text = ""
  text : ∀ {first last}, session.tokens.head? = some first → session.tokens.getLast? = some last →
    Text.IsPiece session.source.text first.start last.stop found.text.toList

/-! ### What a derivation meets -/

section Derivations

variable {reader : SlotReader} {tokens : List Token}

mutual

/-- A derivation settles slots of its node, from left to right. -/
theorem NodeDerives.slots_sublist : ∀ {node : Node} {start stop : Nat} {way : List Decision},
    NodeDerives reader tokens node start way stop →
      (way.flatMap Decision.slots).Sublist node.slots
  | _, _, _, _, .literal _ _ => List.Sublist.refl _
  | _, _, _, _, .choice chosen derives => derives.slots_sublist.trans (slots_sublist_of_chosen chosen)
  | .optional branch, _, _, _, .taken derives => by
      rw [Node.slots, branch.slots_eq]
      exact derives.slots_sublist
  | .optional branch, _, _, _, .skipped => by
      rw [List.flatMap_singleton]
      exact List.Sublist.refl _
  | _, _, _, _, .slot _ _ _ => List.Sublist.refl _

theorem NodesDerive.slots_sublist : ∀ {nodes : List Node} {start stop : Nat} {way : List Decision},
    NodesDerive reader tokens nodes start way stop →
      (way.flatMap Decision.slots).Sublist (slotsOfNodes nodes)
  | _, _, _, _, .nil => List.Sublist.refl _
  | _, _, _, _, .cons first rest => by
      rw [List.flatMap_append]
      exact first.slots_sublist.append rest.slots_sublist

end

mutual

/-- The branches that a derivation enters are branches in its node, in the order in which they are met
from left to right. -/
theorem NodeDerives.exists_branches : ∀ {node : Node} {start stop : Nat} {way : List Decision},
    NodeDerives reader tokens node start way stop →
      ∃ branches, List.Sublist branches node.branchesWithin
        ∧ way.filterMap Decision.entered? = branches.map Branch.tag
  | _, _, _, _, .literal _ _ => ⟨[], List.nil_sublist _, rfl⟩
  | _, _, _, _, .slot _ _ _ => ⟨[], List.nil_sublist _, rfl⟩
  | .optional branch, _, _, _, .skipped => ⟨[], List.nil_sublist _, rfl⟩
  | .optional branch, _, _, _, .taken derives => by
      obtain ⟨inside, sublist, same⟩ := derives.exists_branches
      refine ⟨branch :: inside, ?_, congrArg (branch.tag :: ·) same⟩
      rw [Node.branchesWithin, branch.withInner_eq]
      exact sublist.cons_cons branch
  | _, _, _, _, @NodeDerives.choice _ _ _ number _ _ branch _ chosen derives => by
      obtain ⟨inside, sublist, same⟩ := derives.exists_branches
      refine ⟨branch :: inside, ?_, congrArg (branch.tag :: ·) same⟩
      refine List.Sublist.trans ?_ (withInner_sublist_of_mem (List.mem_of_getElem? chosen))
      rw [branch.withInner_eq]
      exact sublist.cons_cons branch

theorem NodesDerive.exists_branches : ∀ {nodes : List Node} {start stop : Nat}
    {way : List Decision}, NodesDerive reader tokens nodes start way stop →
      ∃ branches, List.Sublist branches (branchesInNodes nodes)
        ∧ way.filterMap Decision.entered? = branches.map Branch.tag
  | _, _, _, _, .nil => ⟨[], List.nil_sublist _, rfl⟩
  | _, _, _, _, .cons first rest => by
      obtain ⟨here, sublist, same⟩ := first.exists_branches
      obtain ⟨later, sublistLater, sameLater⟩ := rest.exists_branches
      refine ⟨here ++ later, sublist.append sublistLater, ?_⟩
      rw [List.filterMap_append, List.map_append, same, sameLater]

end

mutual

/-- What a derivation leaves out are the slots of an optional group in its node. -/
theorem NodeDerives.exists_group : ∀ {node : Node} {start stop : Nat} {way : List Decision},
    NodeDerives reader tokens node start way stop → ∀ {slots : List Slot},
      Decision.skip slots ∈ way →
        ∃ group, node.Contains (.optional group) ∧ slots = group.slots
  | _, _, _, _, .literal _ _, _, listed => by cases listed
  | _, _, _, _, .slot _ _ _, _, listed => by cases List.mem_singleton.1 listed
  | .optional branch, _, _, _, .skipped, _, listed => by
      cases List.mem_singleton.1 listed
      exact ⟨branch, .self, rfl⟩
  | .optional branch, _, _, _, .taken derives, _, listed => by
      rcases List.mem_cons.1 listed with same | listed
      · cases same
      · obtain ⟨node, inside, group, contains, same⟩ := derives.exists_group listed
        exact ⟨group, .optional inside contains, same⟩
  | _, _, _, _, .choice chosen derives, _, listed => by
      rcases List.mem_cons.1 listed with same | listed
      · cases same
      · obtain ⟨node, inside, group, contains, same⟩ := derives.exists_group listed
        exact ⟨group, .choice (List.mem_of_getElem? chosen) inside contains, same⟩

theorem NodesDerive.exists_group : ∀ {nodes : List Node} {start stop : Nat} {way : List Decision},
    NodesDerive reader tokens nodes start way stop → ∀ {slots : List Slot},
      Decision.skip slots ∈ way →
        ∃ node ∈ nodes, ∃ group, node.Contains (.optional group) ∧ slots = group.slots
  | _, _, _, _, .nil, _, listed => by cases listed
  | _, _, _, _, .cons first rest, _, listed => by
      rcases List.mem_append.1 listed with listed | listed
      · exact ⟨_, List.mem_cons_self .., first.exists_group listed⟩
      · obtain ⟨node, inside, found⟩ := rest.exists_group listed
        exact ⟨node, List.mem_cons_of_mem _ inside, found⟩

end

end Derivations

/-! ### What bindings tell of a way -/

theorem tags_bindingsOf (way : List Decision) :
    (bindingsOf way).tags = (way.filterMap Decision.entered?).flatMap Option.toList := by
  induction way with
  | nil => rfl
  | cons decision rest ih =>
      cases decision with
      | branch number tag => exact congrArg (tag.toList ++ ·) ih
      | take tag => exact congrArg (tag.toList ++ ·) ih
      | skip slots => exact ih
      | read slot start stop expression => exact ih

theorem mem_bound_of_read {way : List Decision} {slot : Slot} {start stop : Nat}
    {expression : Expression} (listed : Decision.read slot start stop expression ∈ way) :
    (slot.index, expression) ∈ (bindingsOf way).bound := by
  induction way with
  | nil => cases listed
  | cons decision rest ih =>
      rcases List.mem_cons.1 listed with rfl | later
      · exact List.mem_cons_self ..
      · cases decision with
        | branch number tag => exact ih later
        | take tag => exact ih later
        | skip slots => exact ih later
        | read other first last value => exact List.mem_cons_of_mem _ (ih later)

/-- What is left out are the numbers of slots that a decision leaves out. -/
theorem mem_skipped_iff {way : List Decision} {index : Nat} :
    index ∈ (bindingsOf way).skipped
      ↔ ∃ slots, Decision.skip slots ∈ way ∧ ∃ slot ∈ slots, slot.index = index := by
  induction way with
  | nil => simp [bindingsOf]
  | cons decision rest ih =>
      cases decision with
      | skip slots =>
          have here : (bindingsOf (.skip slots :: rest)).skipped
              = slots.map Slot.index ++ (bindingsOf rest).skipped := rfl
          simp only [here, List.mem_append, List.mem_map, ih, List.mem_cons, Decision.skip.injEq,
            or_and_right, exists_or, exists_eq_left]
      | branch number tag => exact ih.trans (by simp)
      | take tag => exact ih.trans (by simp)
      | read slot start stop expression => exact ih.trans (by simp)

/-- If no two settled slots have one number, a slot is settled by one decision alone. -/
theorem eq_of_mem_slots {way : List Decision}
    (apart : ((way.flatMap Decision.slots).map Slot.index).Nodup) {decision other : Decision}
    (listed : decision ∈ way) (otherListed : other ∈ way) {slot : Slot}
    (settles : slot ∈ decision.slots) (otherSettles : slot ∈ other.slots) : decision = other := by
  have disjoint := (List.nodup_flatMap.1 apart.of_map).2
  have : Std.Symm (Function.onFun List.Disjoint Decision.slots) :=
    ⟨fun _ _ apart _ inside other => apart other inside⟩
  by_contra different
  exact disjoint.forall listed otherListed different settles otherSettles

/-! ### Sessions -/

/-- The tokens of a session stand in its text one behind the other. -/
theorem Session.Opened.stand {session : Session} (opened : session.Opened) :
    Token.Stand session.source.text 0 session.tokens := by
  induction opened with
  | ofText registries world options text => exact Token.stand_tokenize text
  | within opened start stop ih => exact (ih.drop start).take (stop - start)

/-- The text of the session's tokens is the piece of the whole text from the first to the last one. -/
theorem Session.Opened.textOf {session : Session} (opened : session.Opened) {first last : Token}
    (isFirst : session.tokens.head? = some first) (isLast : session.tokens.getLast? = some last) :
    Text.IsPiece session.source.text first.start last.stop
      (session.source.textOf session.tokens).toList := by
  obtain ⟨piece, stands⟩ := opened.stand.exists_piece isFirst isLast
  rw [Source.textOf, isFirst, isLast]
  simpa only [stands.sliceBytes, String.toList_ofList] using stands

section Values

variable {session : Session} {pattern : Pattern} {way : List Decision}

theorem LeftOut.mem_slots {slot : Slot} (left : LeftOut pattern way slot) :
    ∃ slots, Decision.skip slots ∈ way ∧ slot ∈ slots := by
  obtain ⟨group, -, skipped, contains⟩ := left
  exact ⟨group.slots, skipped, Branch.mem_slots_iff.2 contains⟩

theorem Session.Derives.leftOut {slots : List Slot} {slot : Slot}
    (derives : session.Derives pattern way) (skipped : Decision.skip slots ∈ way)
    (listed : slot ∈ slots) : LeftOut pattern way slot := by
  obtain ⟨node, inside, group, contains, rfl⟩ := derives.exists_group skipped
  exact ⟨group, ⟨node, inside, contains⟩, skipped, Branch.mem_slots_iff.1 listed⟩

theorem Session.Derives.mem_slots {decision : Decision} {slot : Slot}
    (derives : session.Derives pattern way) (listed : decision ∈ way)
    (settles : slot ∈ decision.slots) : slot ∈ pattern.slots :=
  derives.slots_sublist.subset (List.mem_flatMap.2 ⟨decision, listed, settles⟩)

variable (indices : pattern.slots.map Slot.index = List.range pattern.slotCount)
  (derives : session.Derives pattern way)
include indices derives

/-- No two settled slots have one number. -/
theorem Session.Derives.apart : ((way.flatMap Decision.slots).map Slot.index).Nodup := by
  refine (derives.slots_sublist.map Slot.index).nodup ?_
  exact indices ▸ List.nodup_range

/-- A slot that was read is bound to what was read. -/
theorem slotValue_of_read {slot : Slot} {start stop : Nat} {expression : Expression}
    (listed : Decision.read slot start stop expression ∈ way) :
    session.source.slotValue pattern.slots (bindingsOf way) slot.index = some expression := by
  have bound := mem_bound_of_read listed
  rw [Source.slotValue]
  cases found : (bindingsOf way).bound.find? (·.1 = slot.index) with
  | none => exact absurd (List.find?_eq_none.1 found _ bound) (by simp)
  | some binding =>
      obtain ⟨number, value⟩ := binding
      have same : number = slot.index := by simpa using List.find?_some found
      obtain ⟨other, first, last, otherListed, numbered⟩ :=
        of_mem_bound (List.mem_of_find?_eq_some found)
      have settles := List.mem_singleton_self slot
      have one : other = slot := Pattern.eq_of_index indices
        (derives.mem_slots otherListed (List.mem_singleton_self other))
        (derives.mem_slots listed settles) (numbered.trans same)
      subst one
      cases eq_of_mem_slots (derives.apart indices) otherListed listed settles settles
      rfl

/-- A slot that was not read is bound to its default, if it was left out and may have one. -/
theorem slotValue_of_not_read {slot : Slot} (listed : slot ∈ pattern.slots)
    (unread : ¬ IsRead way slot) :
    (LeftOut pattern way slot → slot.noDefault = false →
      session.source.slotValue pattern.slots (bindingsOf way) slot.index
        = session.source.defaultFor slot)
    ∧ (¬ (LeftOut pattern way slot ∧ slot.noDefault = false) →
      session.source.slotValue pattern.slots (bindingsOf way) slot.index = none) := by
  have unbound : (bindingsOf way).bound.find? (·.1 = slot.index) = none := by
    rw [List.find?_eq_none]
    intro binding bound same
    obtain ⟨other, start, stop, otherListed, numbered⟩ := of_mem_bound bound
    have one : other = slot := Pattern.eq_of_index indices
      (derives.mem_slots otherListed (List.mem_singleton_self other)) listed
      (numbered.trans (by simpa using same))
    exact unread ⟨start, stop, binding.2, one ▸ otherListed⟩
  have skipped_iff : (bindingsOf way).skipped.contains slot.index = true
      ↔ LeftOut pattern way slot := by
    rw [List.contains_iff_mem, mem_skipped_iff]
    constructor
    · rintro ⟨slots, skipped, other, inside, same⟩
      obtain rfl := Pattern.eq_of_index indices (derives.mem_slots skipped inside) listed same
      exact derives.leftOut skipped inside
    · intro left
      obtain ⟨slots, skipped, inside⟩ := left.mem_slots
      exact ⟨slots, skipped, slot, inside, rfl⟩
  simp only [Source.slotValue, unbound, (Pattern.getElem?_index indices listed).1]
  constructor
  · intro left mayDefault
    rw [if_pos (skipped_iff.2 left), mayDefault]
    rfl
  · intro neither
    split
    · next contained =>
        rw [if_pos]
        exact (Bool.not_eq_false _).mp fun mayDefault => neither ⟨skipped_iff.1 contained, mayDefault⟩
    · rfl

end Values

/-- What is left out is not read. -/
theorem LeftOut.not_isRead {session : Session} {pattern : Pattern} {way : List Decision} {slot : Slot}
    (indices : pattern.slots.map Slot.index = List.range pattern.slotCount)
    (derives : session.Derives pattern way) (left : LeftOut pattern way slot) : ¬ IsRead way slot := by
  rintro ⟨start, stop, expression, read⟩
  obtain ⟨slots, skipped, inside⟩ := left.mem_slots
  cases eq_of_mem_slots (derives.apart indices) skipped read inside (List.mem_singleton_self slot)

theorem eq_ok_of_toOption {ε α : Type} {result : Except ε α} {value : α}
    (answers : result.toOption = some value) : result = .ok value := by
  cases result with
  | error error => cases answers
  | ok other =>
      cases answers
      rfl

/-- One type of values, with a default. Any text without a space is one of its values. -/
def namesOnly : TypeRegistry where
  types := [{
    key := .named "Name", name := "name", plural := "names", displayName := "name"
    parser := some {
      parse := fun _ text _ => if text.toList.contains ' ' then none else some (.custom "Name" text)
      render := fun _ value _ => match value with
        | .custom _ text => some text
        | _ => none }
    defaultSource := .custom (some (.literal (.custom "Name" "anyone") "anyone")) }]

/-- A session on a text, with these types and no entries. -/
def withTypes (types : TypeRegistry) (text : String) : Session :=
  .ofText ⟨types, ⟨{}, {}⟩, {}⟩ ⟨[], .standard⟩ {} text

/-- A match tells of the derivation that was chosen: each slot is bound to what was read for it there, to
its default if it stands in a group that was left out, or to nothing; the tags are those of the branches
that were entered, from left to right; and the text is the piece from the first token to the last. -/
theorem match?_reports_derivation {session : Session} {pattern : Pattern} {number : Nat}
    {found : Match} (opened : session.Opened) (built : pattern.Built)
    (matched : session.match? number pattern = some found) :
    ∃ way, IsFirst (session.Derives pattern) way
      ∧ Reports session pattern number way found := by
  obtain ⟨bindings, bound, rfl⟩ := Option.map_eq_some_iff.1 matched
  obtain ⟨way, isFirst, rfl⟩ := (matchPattern_finds session.readSlot _ pattern).eq_some_iff.1 bound
  have derives : session.Derives pattern way := isFirst.holds
  have indices := built.indices
  have at_index {slot : Slot} (listed : slot ∈ pattern.slots) :
      (session.source.toMatch session.tokens pattern number (bindingsOf way)).slots[slot.index]?
        = some (session.source.slotValue pattern.slots (bindingsOf way) slot.index) := by
    simp [Source.toMatch, (Pattern.getElem?_index indices listed).2]
  refine ⟨way, isFirst, ?_⟩
  constructor
  case which => rfl
  case options => rfl
  case size => simp [Source.toMatch]
  case numbered => exact indices
  case read =>
    intro slot start stop expression listed
    obtain ⟨inside, value⟩ := derives.of_mem listed
    exact ⟨value, by rw [at_index inside, slotValue_of_read indices derives listed]⟩
  case defaults =>
    intro slot left mayDefault
    have unread := left.not_isRead indices derives
    obtain ⟨slots, skipped, inside⟩ := left.mem_slots
    have listed := derives.mem_slots skipped inside
    exact ⟨unread, by
      rw [at_index listed, (slotValue_of_not_read indices derives listed unread).1 left mayDefault]⟩
  case empty =>
    intro slot listed unread neither
    rw [at_index listed, (slotValue_of_not_read indices derives listed unread).2 neither]
  case tags =>
    obtain ⟨branches, sublist, same⟩ := derives.exists_branches
    refine ⟨branches, sublist, same, ?_⟩
    rw [Source.toMatch, tags_bindingsOf, same, List.flatMap_map, List.filterMap_eq_flatMap_toList]
  case noText =>
    intro none
    rw [Source.toMatch, none]
    rfl
  case text =>
    intro first last isFirst isLast
    exact opened.textOf isFirst isLast

/-- The second branch is taken, the first slot read, and of the two groups that are left out one leaves
its slot with the default. -/
theorem match?_reports_greeting :
    ∃ compiled pattern found,
      Pattern.compile "(greet|loud:hail) %name% [from %name%] [near %-name%]" = .ok compiled
      ∧ compiled.resolve namesOnly.slotType = .ok pattern
      ∧ (withTypes namesOnly "hail ann").match? 3 pattern = some found
      ∧ found.slots.map (·.map Expression.describe) = [some "ann", some "anyone", none]
      ∧ found.tags = ["loud"] ∧ found.text = "hail ann"
      ∧ ∃ way, IsFirst ((withTypes namesOnly "hail ann").Derives pattern) way
        ∧ Reports (withTypes namesOnly "hail ann") pattern 3 way found := by
  have computed :
      ((((Pattern.compile "(greet|loud:hail) %name% [from %name%] [near %-name%]").toOption.bind
        fun compiled => (compiled.resolve namesOnly.slotType).toOption).bind
        ((withTypes namesOnly "hail ann").match? 3)).map fun found =>
          (found.slots.map (·.map Expression.describe), found.tags, found.text))
      = some ([some "ann", some "anyone", none], ["loud"], "hail ann") := by
    decide +kernel
  obtain ⟨found, matched, told⟩ := Option.map_eq_some_iff.1 computed
  obtain ⟨pattern, resolved, matched⟩ := Option.bind_eq_some_iff.1 matched
  obtain ⟨compiled, compiles, resolves⟩ := Option.bind_eq_some_iff.1 resolved
  have compiles := eq_ok_of_toOption compiles
  have resolves := eq_ok_of_toOption resolves
  simp only [Prod.mk.injEq] at told
  exact ⟨compiled, pattern, found, compiles, resolves, matched, told.1, told.2.1, told.2.2,
    match?_reports_derivation (.ofText ..) (.resolved (.compiled compiles) resolves) matched⟩

end ScriptBridge.Parsing
