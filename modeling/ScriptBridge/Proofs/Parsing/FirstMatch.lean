import ScriptBridge.Proofs.Parsing.Derivation
/-!
Matching finds the first derivation. Matching is recursive in the pattern and takes what remains of it as
a function of the position, so the statement by induction is about a continuation: if from each position
it answers with the first of some ways, then so does a node in front of it, for the ways that derive the
node and go on with one of those. The claim for a whole pattern is the case in which nothing remains.
-/

namespace ScriptBridge.Parsing

/-- A search answers with the bindings of the first of these ways, or with nothing if there are none. -/
inductive Finds (ways : List Decision → Prop) : Option Bindings → Prop where
  | nothing (empty : ∀ way, ¬ ways way) : Finds ways none
  | first {way : List Decision} (isFirst : IsFirst ways way) : Finds ways (some (bindingsOf way))

/-- The ways that begin with a derivation and go on from the position that it reaches. -/
def Then (derives : List Decision → Nat → Prop) (ways : Nat → List Decision → Prop)
    (way : List Decision) : Prop :=
  ∃ head stop tail, way = head ++ tail ∧ derives head stop ∧ ways stop tail

/-- The ways that begin with a given decision. -/
def Behind (decision : Decision) (ways : List Decision → Prop) (way : List Decision) : Prop :=
  ∃ rest, way = decision :: rest ∧ ways rest

namespace Finds

variable {ways others : List Decision → Prop} {found second : Option Bindings}

theorem congr (same : ∀ way, ways way ↔ others way) (finds : Finds ways found) :
    Finds others found := by
  have equal : ways = others := funext fun way => propext (same way)
  rwa [← equal]

/-- A decision in front of every way leaves the first one first. -/
theorem behind (decision : Decision) (finds : Finds ways found) :
    Finds (Behind decision ways) (found.map decision.apply) := by
  cases finds with
  | nothing empty =>
      refine .nothing ?_
      rintro way ⟨rest, -, holds⟩
      exact empty rest holds
  | @first way isFirst =>
      have leads : Behind decision ways (decision :: way) := ⟨way, rfl, isFirst.holds⟩
      refine .first ⟨leads, ?_⟩
      rintro other ⟨rest, rfl, holds⟩
      rcases isFirst.before rest holds with rfl | later
      · exact Or.inl rfl
      · exact Or.inr (.cons later)

/-- Of two searches, the second counts only if the first one fails, when all ways of the first come
before those of the second. -/
theorem orElse : Finds ways found → Finds others second →
    (∀ way other, ways way → others other → List.Lex Preferred way other) →
    Finds (fun way => ways way ∨ others way)
      (match found with
        | some bindings => some bindings
        | none => second) := by
  intro finds next ordered
  cases finds with
  | first isFirst =>
      refine .first ⟨Or.inl isFirst.holds, ?_⟩
      rintro other (holds | holds)
      · exact isFirst.before other holds
      · exact Or.inr (ordered _ other isFirst.holds holds)
  | nothing empty =>
      refine next.congr ?_
      intro way
      constructor
      · exact Or.inr
      · rintro (holds | holds)
        · exact absurd holds (empty way)
        · exact holds

/-- A search answers exactly if there is a way. -/
theorem isSome_iff (finds : Finds ways found) : found.isSome ↔ ∃ way, ways way := by
  cases finds with
  | nothing empty => simp [empty]
  | @first way isFirst => simpa using ⟨way, isFirst.holds⟩

/-- The answer of a search is what the first way binds, and nothing else. -/
theorem eq_some_iff (finds : Finds ways found) {bindings : Bindings} :
    found = some bindings ↔ ∃ way, IsFirst ways way ∧ bindings = bindingsOf way := by
  cases finds with
  | nothing empty =>
      constructor
      · intro impossible
        cases impossible
      · rintro ⟨way, isFirst, -⟩
        exact absurd isFirst.holds (empty way)
  | @first way isFirst =>
      rw [Option.some.injEq]
      constructor
      · rintro rfl
        exact ⟨way, isFirst, rfl⟩
      · rintro ⟨other, otherFirst, rfl⟩
        rw [isFirst.unique otherFirst]

end Finds

/-- Ways behind preferred decisions come first, whatever follows. -/
theorem lex_of_preferred {decision other : Decision} {ways others : List Decision → Prop}
    (preferred : Preferred decision other) :
    ∀ way later, Behind decision ways way → Behind other others later →
      List.Lex Preferred way later := by
  rintro way later ⟨rest, rfl, -⟩ ⟨laterRest, rfl, -⟩
  exact .rel preferred

section Matching

variable {read : SlotReader} {tokens : List Token} {next : Continuation}
  {ways : Nat → List Decision → Prop}

/-- A literal consumes the one token that it fits. -/
theorem matchLiteral_finds (finds : ∀ position, Finds (ways position) (next position))
    (text : String) (start : Nat) :
    Finds (Then (NodeDerives read tokens (.literal text) start) ways)
      (matchLiteral tokens text next start) := by
  unfold matchLiteral
  cases present : tokens[start]? with
  | none =>
      refine .nothing ?_
      rintro way ⟨head, stop, tail, -, derives, -⟩
      cases derives with
      | literal found fits => simp [present] at found
  | some token =>
      by_cases fits : token.isLiteral text = true
      · simp only [fits, if_true]
        refine (finds (start + 1)).congr ?_
        intro way
        constructor
        · intro holds
          exact ⟨[], start + 1, way, rfl, .literal present fits, holds⟩
        · rintro ⟨head, stop, tail, rfl, derives, holds⟩
          cases derives with
          | literal => exact holds
      · simp only [fits]
        refine .nothing ?_
        rintro way ⟨head, stop, tail, -, derives, -⟩
        cases derives with
        | literal found fitsOther =>
            rw [present, Option.some.injEq] at found
            subst found
            exact fits fitsOther

/-- The ways that read a slot in a window which ends at one of these positions. -/
def ReadsTo (read : SlotReader) (slot : Slot) (start : Nat) (stops : List Nat)
    (ways : Nat → List Decision → Prop) (way : List Decision) : Prop :=
  ∃ stop ∈ stops, ∃ expression, read slot start stop = some expression ∧
    Behind (.read slot start stop expression) (ways stop) way

/-- The rest of the pattern is matched before the window is read, which changes nothing: what the window
reads as does not depend on the rest. -/
theorem matchSlotAt_finds (finds : ∀ position, Finds (ways position) (next position))
    (slot : Slot) (start : Nat) {stops : List Nat} (ascending : stops.Pairwise (· < ·)) :
    Finds (ReadsTo read slot start stops ways) (matchSlotAt read slot next start stops) := by
  induction ascending with
  | nil =>
      refine .nothing ?_
      rintro way ⟨stop, listed, -⟩
      simp at listed
  | @cons stop later shorter _ ih =>
      have here : Finds (fun way => ∃ expression, read slot start stop = some expression ∧
            Behind (.read slot start stop expression) (ways stop) way)
          ((next stop).bind fun bindings =>
            (read slot start stop).map (bindings.bind slot ·)) := by
        cases value : read slot start stop with
        | none =>
            have nothing : ((next stop).bind fun bindings =>
                (none : Option Expression).map (bindings.bind slot ·)) = none := by
              cases next stop <;> rfl
            rw [nothing]
            exact .nothing (by rintro way ⟨expression, impossible, -⟩; cases impossible)
        | some expression =>
            have mapped : ((next stop).bind fun bindings =>
                (some expression).map (bindings.bind slot ·))
                = (next stop).map (Decision.read slot start stop expression).apply := by
              cases next stop <;> rfl
            rw [mapped]
            refine ((finds stop).behind _).congr ?_
            intro way
            constructor
            · exact fun behind => ⟨expression, rfl, behind⟩
            · rintro ⟨other, same, behind⟩
              cases same
              exact behind
      refine (here.orElse ih ?_).congr ?_
      · rintro way other ⟨expression, -, behind⟩ ⟨longer, listed, otherExpression, -, behindOther⟩
        exact lex_of_preferred (.read (shorter longer listed)) way other behind behindOther
      · intro way
        simp only [ReadsTo, List.mem_cons, exists_eq_or_imp]

/-- A slot reads the shortest window with which the rest can be matched. -/
theorem matchSlot_finds (finds : ∀ position, Finds (ways position) (next position))
    (slot : Slot) (start : Nat) :
    Finds (Then (NodeDerives read tokens (.slot slot) start) ways)
      (matchSlot read tokens slot next start) := by
  unfold matchSlot
  refine (matchSlotAt_finds finds slot start List.pairwise_lt_range').congr ?_
  intro way
  constructor
  · rintro ⟨stop, listed, expression, value, rest, rfl, holds⟩
    rw [List.mem_range'_1] at listed
    exact ⟨[.read slot start stop expression], stop, rest, rfl,
      .slot (by omega) (by omega) value, holds⟩
  · rintro ⟨head, stop, tail, rfl, derives, holds⟩
    cases derives with
    | slot nonempty within value =>
        refine ⟨stop, ?_, _, value, tail, rfl, holds⟩
        rw [List.mem_range'_1]
        omega

/-- The ways that enter a branch of a choice, where the listed branches are numbered from `first` on. -/
def EntersFrom (read : SlotReader) (tokens : List Token) (first : Nat) (branches : List Branch)
    (start : Nat) (ways : Nat → List Decision → Prop) (way : List Decision) : Prop :=
  ∃ (number : Nat) (branch : Branch), branches[number]? = some branch ∧
    Behind (.branch (first + number) branch.tag)
      (Then (NodesDerive read tokens branch.nodes start) ways) way

mutual

/-- A node in front of a continuation finds the first way through both. -/
theorem matchNode_finds : ∀ (node : Node) {next : Continuation}
    {ways : Nat → List Decision → Prop} (_ : ∀ position, Finds (ways position) (next position))
    (start : Nat),
    Finds (Then (NodeDerives read tokens node start) ways)
      (matchNode read tokens node next start)
  | .literal text, _, _, finds, start => matchLiteral_finds finds text start
  | .slot slot, _, _, finds, start => matchSlot_finds finds slot start
  | .choice branches, _, ways, finds, start => by
      rw [matchNode]
      refine (matchAnyBranch_finds branches 0 finds start).congr ?_
      intro way
      constructor
      · rintro ⟨number, branch, chosen, rest, rfl, head, stop, tail, rfl, derives, holds⟩
        rw [Nat.zero_add]
        exact ⟨_ :: head, stop, tail, rfl, .choice chosen derives, holds⟩
      · rintro ⟨head, stop, tail, rfl, derives, holds⟩
        cases derives with
        | @choice _ number _ _ branch inside chosen derives =>
            refine ⟨number, branch, chosen, inside ++ tail, ?_, inside, stop, tail, rfl, derives,
              holds⟩
            rw [Nat.zero_add]
            rfl
  | .optional branch, next, ways, finds, start => by
      rw [matchNode]
      have taken := matchBranch_finds branch (.take branch.tag) (fun _ => rfl) finds start
      have skipped := (finds start).behind (.skip branch.slots)
      refine (taken.orElse skipped (lex_of_preferred .take)).congr ?_
      intro way
      constructor
      · rintro (⟨rest, rfl, head, stop, tail, rfl, derives, holds⟩ | ⟨rest, rfl, holds⟩)
        · exact ⟨_ :: head, stop, tail, rfl, .taken derives, holds⟩
        · exact ⟨[_], start, rest, rfl, .skipped, holds⟩
      · rintro ⟨head, stop, tail, rfl, derives, holds⟩
        cases derives with
        | taken derives => exact Or.inl ⟨_, rfl, _, stop, tail, rfl, derives, holds⟩
        | skipped => exact Or.inr ⟨tail, rfl, holds⟩

/-- A branch finds the first way through it, behind the decision by which it is entered. -/
theorem matchBranch_finds : ∀ (branch : Branch) (decision : Decision)
    (_ : ∀ bindings, decision.apply bindings = bindings.enter branch.tag) {next : Continuation}
    {ways : Nat → List Decision → Prop} (_ : ∀ position, Finds (ways position) (next position))
    (start : Nat),
    Finds (Behind decision (Then (NodesDerive read tokens branch.nodes start) ways))
      (matchBranch read tokens branch next start)
  | .mk tag nodes, decision, enters, _, _, finds, start => by
      rw [matchBranch]
      have inside := (matchNodes_finds nodes finds start).behind decision
      rwa [show decision.apply = (·.enter tag) from funext enters] at inside

/-- A sequence of nodes in front of a continuation finds the first way through all of them. -/
theorem matchNodes_finds : ∀ (nodes : List Node) {next : Continuation}
    {ways : Nat → List Decision → Prop} (_ : ∀ position, Finds (ways position) (next position))
    (start : Nat),
    Finds (Then (NodesDerive read tokens nodes start) ways)
      (matchNodes read tokens nodes next start)
  | [], _, _, finds, start => by
      rw [matchNodes]
      refine (finds start).congr ?_
      intro way
      constructor
      · exact fun holds => ⟨[], start, way, rfl, .nil, holds⟩
      · rintro ⟨head, stop, tail, rfl, derives, holds⟩
        cases derives with
        | nil => exact holds
  | node :: nodes, _, ways, finds, start => by
      rw [matchNodes]
      -- what follows the node is the rest of the sequence, and then the continuation
      refine (matchNode_finds node (matchNodes_finds nodes finds) start).congr ?_
      intro way
      constructor
      · rintro ⟨head, middle, rest, rfl, first, inner, stop, tail, rfl, derives, holds⟩
        exact ⟨head ++ inner, stop, tail, (List.append_assoc ..).symm, .cons first derives, holds⟩
      · rintro ⟨whole, stop, tail, rfl, derives, holds⟩
        cases derives with
        | @cons _ _ _ middle _ head inner first rest =>
            exact ⟨head, middle, inner ++ tail, List.append_assoc .., first, inner, stop, tail, rfl,
              rest, holds⟩

/-- The branches of a choice are tried in order. -/
theorem matchAnyBranch_finds : ∀ (branches : List Branch) (first : Nat) {next : Continuation}
    {ways : Nat → List Decision → Prop} (_ : ∀ position, Finds (ways position) (next position))
    (start : Nat),
    Finds (EntersFrom read tokens first branches start ways)
      (matchAnyBranch read tokens branches next start)
  | [], _, _, _, _, _ => by
      rw [matchAnyBranch]
      refine .nothing ?_
      rintro way ⟨number, branch, chosen, -⟩
      simp at chosen
  | branch :: rest, first, _, ways, finds, start => by
      rw [matchAnyBranch]
      have here := matchBranch_finds branch (.branch first branch.tag) (fun _ => rfl) finds start
      have later := matchAnyBranch_finds rest (first + 1) finds start
      refine (here.orElse later ?_).congr ?_
      · rintro way other behind ⟨number, otherBranch, -, behindOther⟩
        exact lex_of_preferred (.branch (by omega)) way other behind behindOther
      · intro way
        constructor
        · rintro (behind | ⟨number, other, chosen, behind⟩)
          · exact ⟨0, branch, rfl, behind⟩
          · refine ⟨number + 1, other, chosen, ?_⟩
            rwa [show first + (number + 1) = first + 1 + number by omega]
        · rintro ⟨number, other, chosen, behind⟩
          cases number with
          | zero =>
              cases chosen
              exact Or.inl behind
          | succ number =>
              refine Or.inr ⟨number, other, chosen, ?_⟩
              rwa [show first + 1 + number = first + (number + 1) by omega]

end

end Matching

/-- At the end of a pattern nothing is left to decide, and all tokens must have been consumed. -/
theorem matchEnd_finds (tokens : List Token) (position : Nat) :
    Finds (fun way => position = tokens.length ∧ way = []) (matchEnd tokens position) := by
  unfold matchEnd
  by_cases atEnd : position = tokens.length
  · rw [if_pos atEnd]
    refine @Finds.first _ [] ⟨⟨atEnd, rfl⟩, ?_⟩
    rintro other ⟨-, rfl⟩
    exact Or.inl rfl
  · rw [if_neg atEnd]
    exact .nothing fun way holds => atEnd holds.1

/-- A whole pattern finds the first of its derivations over all the tokens. -/
theorem matchPattern_finds (read : SlotReader) (tokens : List Token) (pattern : Pattern) :
    Finds (fun way => NodesDerive read tokens pattern.nodes 0 way tokens.length)
      (matchPattern read tokens pattern) := by
  unfold matchPattern
  refine (matchNodes_finds pattern.nodes (matchEnd_finds tokens) 0).congr ?_
  intro way
  constructor
  · rintro ⟨head, stop, tail, rfl, derives, rfl, rfl⟩
    rwa [List.append_nil]
  · intro derives
    exact ⟨way, tokens.length, [], (List.append_nil way).symm, derives, rfl, rfl⟩

/-- Matching a pattern answers exactly when the pattern has a derivation over the session's tokens, and
its answer is the match of the first derivation: the one with earlier branches, groups taken and shorter
windows wherever it first differs from another. -/
theorem match?_first_derivation (session : Session) (number : Nat) (pattern : Pattern) :
    ((session.match? number pattern).isSome ↔ ∃ way, session.Derives pattern way) ∧
      ∀ found, session.match? number pattern = some found ↔
        ∃ way, IsFirst (session.Derives pattern) way ∧
          found = session.source.toMatch session.tokens pattern number (bindingsOf way) := by
  have finds : Finds (session.Derives pattern)
      (matchPattern session.readSlot session.tokens pattern) := matchPattern_finds _ _ pattern
  have unfolded : session.match? number pattern
      = (matchPattern session.readSlot session.tokens pattern).map
          (session.source.toMatch session.tokens pattern number) := rfl
  rw [unfolded]
  generalize matchPattern session.readSlot session.tokens pattern = answer at finds
  constructor
  · rw [Option.isSome_map]
    exact finds.isSome_iff
  · intro found
    rw [Option.map_eq_some_iff]
    constructor
    · rintro ⟨bindings, rfl, rfl⟩
      obtain ⟨way, isFirst, rfl⟩ := finds.eq_some_iff.1 rfl
      exact ⟨way, isFirst, rfl⟩
    · rintro ⟨way, isFirst, rfl⟩
      exact ⟨bindingsOf way, finds.eq_some_iff.2 ⟨way, isFirst, rfl⟩, rfl⟩

end ScriptBridge.Parsing
