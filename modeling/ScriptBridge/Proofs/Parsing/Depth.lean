import Mathlib.Data.Prod.Lex
import Mathlib.Order.WellFounded
import ScriptBridge.Proofs.Parsing.Questions
/-!
How deep windows nest. A question that comes up in reading is asked in a deeper window than the one it is
asked for; or in the same window, where there is less to do. For a pattern leaves its nodes behind on the way
to its end, with the groups it enters laid open in front of what comes after them. Where nothing is read any
more, no question comes up but what value stands there. Main statement: whatever the registries hold,
reading a text ends, two levels below the deepest window in which anything is read at the latest.
-/

namespace ScriptBridge.Parsing

mutual

/-- The number of nodes in a node, itself included. -/
def Node.weight : Node → Nat
  | .literal _ => 1
  | .choice branches => weightOfBranches branches + 1
  | .optional branch => Branch.weight branch + 1
  | .slot _ => 1

/-- The number of nodes in a branch. -/
def Branch.weight : Branch → Nat
  | .mk _ nodes => weightOfNodes nodes

/-- The number of nodes in a sequence of nodes. -/
def weightOfNodes : List Node → Nat
  | [] => 0
  | node :: rest => Node.weight node + weightOfNodes rest

/-- The number of nodes in a sequence of branches. -/
def weightOfBranches : List Branch → Nat
  | [] => 0
  | branch :: rest => Branch.weight branch + weightOfBranches rest

end

theorem weightOfNodes_append (nodes rest : List Node) :
    weightOfNodes (nodes ++ rest) = weightOfNodes nodes + weightOfNodes rest := by
  induction nodes with
  | nil => simp [weightOfNodes]
  | cons node nodes ih =>
      rw [List.cons_append, weightOfNodes, weightOfNodes, ih, Nat.add_assoc]

theorem weight_eq (branch : Branch) : Branch.weight branch = weightOfNodes branch.nodes := by
  cases branch
  rw [Branch.weight, Branch.nodes]

theorem weight_le_of_mem {branch : Branch} {branches : List Branch} (listed : branch ∈ branches) :
    Branch.weight branch ≤ weightOfBranches branches := by
  induction branches with
  | nil => cases listed
  | cons other rest ih =>
      rw [weightOfBranches]
      rcases List.mem_cons.1 listed with rfl | later
      · exact Nat.le_add_right ..
      · exact Nat.le_add_left_of_le (ih later)

namespace Question

/-- The session in which a question comes up. -/
def session : Question → Session
  | .rest session .. => session
  | .slot session .. => session
  | .value session .. => session
  | .expression session _ => session
  | .effect session => session
  | .event session => session

/-- The depth of the window in which the answer is read. That of a slot is opened below the session's. -/
def depth : Question → Nat
  | .slot session .. => session.depth + 1
  | question => question.session.depth

/-- The questions that come up at a depth: what value stands in a window is asked up to two levels below the
deepest window in which anything is read, and nothing else is asked there. -/
def Shallow : Question → Prop
  | .value session .. => session.depth ≤ maxDepth + 2
  | question => question.session.depth ≤ maxDepth

/-- How far a question is from the slots that are read in its window. -/
def stage : Question → Nat
  | .slot .. => 0
  | .rest .. => 1
  | .expression .. => 2
  | .effect _ => 2
  | .event _ => 2
  | .value .. => 3

/-- How much of a pattern is still to do. -/
def weight : Question → Nat
  | .rest _ todo _ => weightOfNodes todo
  | _ => 0

/-- What gets less from question to question: the depth that is left, how far it is to the slots of a pattern,
and what is still to do of the pattern. -/
def measure (question : Question) : Nat ×ₗ Nat ×ₗ Nat :=
  toLex (maxDepth + 3 - question.session.depth, toLex (question.stage, question.weight))

/-- A question that is asked in the course of another one. -/
def Below (question asked : Question) : Prop :=
  asked.Shallow ∧ asked.measure < question.measure

end Question

section Descent

variable {session : Session} {question asked : Question}

theorem wellFounded_measure : WellFounded fun asked question : Question => asked.measure < question.measure :=
  InvImage.wf Question.measure wellFounded_lt

theorem measure_lt_of_deeper (deeper : question.session.depth < asked.session.depth)
    (within : question.session.depth ≤ maxDepth + 2) : asked.measure < question.measure :=
  Prod.Lex.lt_iff.2 (.inl (by show maxDepth + 3 - _ < maxDepth + 3 - _; omega))

theorem measure_lt_of_stage (same : asked.session = question.session)
    (nearer : asked.stage < question.stage) : asked.measure < question.measure := by
  refine Prod.Lex.lt_iff.2 (.inr ⟨?_, Prod.Lex.lt_iff.2 (.inl nearer)⟩)
  show maxDepth + 3 - _ = maxDepth + 3 - _
  rw [same]

theorem measure_lt_of_weight {todo less : List Node} {start stop : Nat}
    (lighter : weightOfNodes less < weightOfNodes todo) :
    (Question.rest session less stop).measure < (Question.rest session todo start).measure :=
  Prod.Lex.lt_iff.2 (.inr ⟨rfl, Prod.Lex.lt_iff.2 (.inr ⟨rfl, lighter⟩)⟩)

end Descent

/-! ### What is asked -/

section Asking

open Program Question

variable (session : Session) {pre : Question → Prop}

theorem Session.tryBranches_asks (todo : List Node) (start : Nat) (branches : List Branch)
    (asked : ∀ branch ∈ branches, pre (.rest session (branch.nodes ++ todo) start)) :
    (session.tryBranches todo start branches).Asks pre := by
  induction branches with
  | nil => exact asks_pure _
  | cons branch later ih =>
      obtain ⟨here, behind⟩ := List.forall_mem_cons.1 asked
      refine asks_query_bind.2 ⟨here, fun answer => ?_⟩
      cases answer with
      | none => exact ih behind
      | some bindings => exact asks_pure _

theorem Session.tryStops_asks (slot : Slot) (todo : List Node) (start : Nat) (stops : List Nat)
    (rest : ∀ stop, pre (.rest session todo stop)) (reads : ∀ stop, pre (.slot session slot start stop)) :
    (session.tryStops slot todo start stops).Asks pre := by
  induction stops with
  | nil => exact asks_pure _
  | cons stop later ih =>
      refine asks_query_bind.2 ⟨rest stop, fun answer => ?_⟩
      cases answer with
      | none => exact ih
      | some bindings =>
          refine asks_query_bind.2 ⟨reads stop, fun found => ?_⟩
          cases found with
          | none => exact ih
          | some found => exact asks_pure _

theorem Session.readItems_asks (slot : Slot) (key : TypeKey) (parts : List (Nat × Nat))
    (items : ∀ start stop, pre (.value (session.within start stop) slot key)) :
    (session.readItems slot key parts).Asks pre := by
  induction parts with
  | nil => exact asks_pure _
  | cons part later ih =>
      refine asks_query_bind.2 ⟨items part.1 part.2, fun answer => ?_⟩
      cases answer with
      | none => exact asks_pure _
      | some item => exact ih.bind fun _ => asks_pure _

theorem Session.tryCandidates_asks {α : Type} (candidates : List (Candidate α))
    (asked : ∀ pattern : Pattern, pre (.rest session pattern.nodes 0)) :
    (session.tryCandidates candidates).Asks pre := by
  induction candidates with
  | nil => exact asks_pure _
  | cons candidate later ih =>
      refine asks_query_bind.2 ⟨asked candidate.pattern, fun answer => ?_⟩
      cases answer with
      | none => exact ih
      | some bindings =>
          simp only
          cases candidate.accept _ with
          | none => exact ih
          | some accepted => exact asks_pure _

theorem Session.matchRest_asks (within : session.depth ≤ maxDepth) (todo : List Node) (start : Nat) :
    (session.matchRest todo start).Asks (Below (.rest session todo start)) := by
  have lighter {less : List Node} (stop : Nat) (lighter : weightOfNodes less < weightOfNodes todo) :
      Below (.rest session todo start) (.rest session less stop) :=
    ⟨within, measure_lt_of_weight lighter⟩
  cases todo with
  | nil => exact asks_pure _
  | cons node todo =>
      have weight : weightOfNodes (node :: todo) = Node.weight node + weightOfNodes todo := by
        rw [weightOfNodes]
      cases node with
      | literal text =>
          rw [matchRest]
          cases session.tokens[start]? with
          | none => exact asks_pure _
          | some token =>
              by_cases fits : token.isLiteral text = true
              · simp only [if_pos fits]
                exact asks_query.2 (lighter _ (by rw [weight, Node.weight]; omega))
              · simp only [if_neg fits]
                exact asks_pure _
      | choice branches =>
          refine session.tryBranches_asks todo start branches fun branch listed => lighter _ ?_
          have part := weight_le_of_mem listed
          rw [weight_eq] at part
          rw [weight, Node.weight, weightOfNodes_append]
          omega
      | optional branch =>
          refine asks_query_bind.2 ⟨lighter _ ?_, fun answer => ?_⟩
          · rw [weight, Node.weight, weight_eq, weightOfNodes_append]
            omega
          · cases answer with
            | some bindings => exact asks_pure _
            | none =>
                refine asks_query_bind.2 ⟨lighter _ ?_, fun _ => asks_pure _⟩
                rw [weight, Node.weight]
                omega
      | slot slot =>
          refine session.tryStops_asks slot todo start _ (fun stop => lighter stop ?_) fun stop => ?_
          · rw [weight, Node.weight]
            omega
          · exact ⟨within, measure_lt_of_stage rfl Nat.zero_lt_one⟩

theorem Session.readPiece_asks (within : session.depth ≤ maxDepth) (slot : Slot) (start stop : Nat) :
    (session.readPiece slot start stop).Asks (Below (.slot session slot start stop)) := by
  have opened (piece : Session) (key : TypeKey) (deeper : session.depth < piece.depth)
      (most : piece.depth ≤ session.depth + 2) :
      Below (.slot session slot start stop) (.value piece slot key) :=
    ⟨Nat.le_trans most (Nat.add_le_add_right within 2),
      measure_lt_of_deeper deeper (Nat.le_add_right_of_le within)⟩
  rw [readPiece]
  cases slot.key with
  | none => exact asks_pure _
  | some key =>
      refine asks_query_bind.2 ⟨opened _ key (Nat.lt_succ_self _) (Nat.le_succ _), fun answer => ?_⟩
      cases answer with
      | some found => exact asks_pure _
      | none =>
          by_cases plural : slot.plural = true
          · simp only [if_pos plural]
            cases splitList (session.within start stop).tokens with
            | none => exact asks_pure _
            | some parts =>
                refine ((session.within start stop).readItems_asks slot key parts ?_).bind
                  fun _ => asks_pure _
                exact fun _ _ => opened _ key (Nat.lt_add_of_pos_right Nat.two_pos) (Nat.le_refl _)
          · simp only [if_neg plural]
            exact asks_pure _

theorem Session.readValue_asks (slot : Slot) (key : TypeKey) :
    (session.readValue slot key).Asks (Below (.value session slot key)) := by
  rw [readValue]
  by_cases shut : session.isShut = true
  · rw [if_pos shut]
    exact asks_pure _
  · rw [if_neg shut]
    cases session.source.writtenOut? session.tokens key with
    | some expression => exact asks_pure _
    | none =>
        cases session.source.fromString? session.tokens key with
        | some expression => exact asks_pure _
        | none =>
            by_cases only : slot.literalOnly = true
            · simp only [if_pos only]
              exact asks_pure _
            · simp only [if_neg only]
              exact asks_query.2
                ⟨(session.of_not_isShut shut).2, measure_lt_of_stage rfl (Nat.lt_succ_self 2)⟩

/-- Trying patterns asks how they match, and that is below what they are tried for. -/
theorem Session.tryCandidates_below {α : Type} (within : session.depth ≤ maxDepth) {question : Question}
    (same : question.session = session) (before : question.stage = 2) (candidates : List (Candidate α)) :
    (session.tryCandidates candidates).Asks (Below question) := by
  refine session.tryCandidates_asks candidates fun pattern => ⟨within, ?_⟩
  refine measure_lt_of_stage same.symm ?_
  rw [before]
  exact Nat.lt_succ_self 1

/-- Whatever is asked, the program asks what lies below. -/
theorem answering_asks (question : Question) (shallow : question.Shallow) :
    question.answering.Asks question.Below := by
  cases question with
  | rest session todo start => exact session.matchRest_asks shallow todo start
  | slot session place start stop => exact session.readPiece_asks shallow place start stop
  | value session place key => exact session.readValue_asks place key
  | expression session target =>
      rw [answering, Session.readExpression]
      split
      · exact asks_pure _
      · exact session.tryCandidates_below shallow rfl rfl _
  | effect session => exact session.tryCandidates_below shallow rfl rfl _
  | event session => exact session.tryCandidates_below shallow rfl rfl _

theorem answering_asks_shallow (question : Question) (shallow : question.Shallow) :
    question.answering.Asks Shallow :=
  (answering_asks question shallow).imp fun _ below => below.1

end Asking

/-! ### What is found -/

/-- The slots that are bound in what is found at a depth nest no deeper than windows in which anything is
read. -/
def NestsWithin {α : Type} (depth : Nat) (answer : Option (Nested α)) : Prop :=
  ∀ found, answer = some found → depth + found.nesting ≤ maxDepth

theorem nestsWithin_none {α : Type} {depth : Nat} : NestsWithin depth (none : Option (Nested α)) := by
  intro found same
  cases same

theorem nestsWithin_some {α : Type} {depth : Nat} {found : Nested α}
    (bounded : depth + found.nesting ≤ maxDepth) : NestsWithin depth (some found) := by
  rintro _ ⟨⟩
  exact bounded

/-- What is found in answer to a question is bounded so, from the depth of its window on. -/
def Question.Bounded (question : Question) (answer : question.Answer) : Prop :=
  NestsWithin question.depth answer

section Nesting

open Program Question

variable (session : Session)

theorem Session.tryBranches_bounded (todo : List Node) (start : Nat) (branches : List Branch) :
    (session.tryBranches todo start branches).Meets Bounded (NestsWithin session.depth) := by
  induction branches with
  | nil => exact nestsWithin_none
  | cons branch later ih =>
      refine meets_query_bind.2 fun answer bounded => ?_
      cases answer with
      | none => exact ih
      | some bindings => exact nestsWithin_some (bounded bindings rfl)

theorem Session.tryStops_bounded (slot : Slot) (todo : List Node) (start : Nat) (stops : List Nat) :
    (session.tryStops slot todo start stops).Meets Bounded (NestsWithin session.depth) := by
  induction stops with
  | nil => exact nestsWithin_none
  | cons stop later ih =>
      refine meets_query_bind.2 fun answer bounded => ?_
      cases answer with
      | none => exact ih
      | some bindings =>
          refine meets_query_bind.2 fun found bounded_found => ?_
          cases found with
          | none => exact ih
          | some found =>
              have outer : session.depth + bindings.nesting ≤ maxDepth := bounded bindings rfl
              have inner : session.depth + 1 + found.nesting ≤ maxDepth := bounded_found found rfl
              apply nestsWithin_some
              show session.depth + max bindings.nesting (found.nesting + 1) ≤ maxDepth
              omega

theorem Session.matchRest_bounded (within : session.depth ≤ maxDepth) (todo : List Node) (start : Nat) :
    (session.matchRest todo start).Meets Bounded (NestsWithin session.depth) := by
  cases todo with
  | nil =>
      rw [matchRest, meets_pure]
      split
      · exact nestsWithin_some within
      · exact nestsWithin_none
  | cons node todo =>
      cases node with
      | literal text =>
          rw [matchRest]
          cases session.tokens[start]? with
          | none => exact nestsWithin_none
          | some token =>
              by_cases fits : token.isLiteral text = true
              · simp only [if_pos fits]
                exact meets_query.2 fun _ bounded => bounded
              · simp only [if_neg fits]
                exact nestsWithin_none
      | choice branches => exact session.tryBranches_bounded todo start branches
      | optional branch =>
          refine meets_query_bind.2 fun answer bounded => ?_
          cases answer with
          | some bindings => exact nestsWithin_some (bounded bindings rfl)
          | none =>
              refine meets_query_bind.2 fun answer bounded => ?_
              cases answer with
              | none => exact nestsWithin_none
              | some bindings => exact nestsWithin_some (bounded bindings rfl)
      | slot slot => exact session.tryStops_bounded slot todo start _

/-- A list stands in a window in which anything is read, unless it is empty: its items stand below. -/
theorem Session.readItems_bounded (slot : Slot) (key : TypeKey) (parts : List (Nat × Nat)) :
    (session.readItems slot key parts).Meets Bounded fun answer =>
      ∀ items, answer = some items →
        session.depth + items.nesting ≤ maxDepth ∨ parts = [] ∧ items.nesting = 0 := by
  induction parts with
  | nil =>
      rintro _ ⟨⟩
      exact Or.inr ⟨rfl, rfl⟩
  | cons part later ih =>
      refine meets_query_bind.2 fun answer bounded => ?_
      cases answer with
      | none =>
          intro items same
          cases same
      | some item =>
          have below : session.depth + 1 + item.nesting ≤ maxDepth := bounded item rfl
          refine Meets.bind (ih.imp fun items others => ?_)
          intro all same
          obtain ⟨items, rfl, rfl⟩ := Option.map_eq_some_iff.1 same
          left
          show session.depth + max (item.nesting + 1) items.nesting ≤ maxDepth
          rcases others items rfl with others | ⟨-, others⟩
          · omega
          · omega

theorem Session.readPiece_bounded (slot : Slot) (start stop : Nat) :
    (session.readPiece slot start stop).Meets Bounded (NestsWithin (session.depth + 1)) := by
  rw [readPiece]
  cases slot.key with
  | none => exact nestsWithin_none
  | some key =>
      refine meets_query_bind.2 fun answer bounded => ?_
      cases answer with
      | some found => exact nestsWithin_some (bounded found rfl)
      | none =>
          by_cases plural : slot.plural = true
          · simp only [if_pos plural]
            cases splits : splitList (session.within start stop).tokens with
            | none => exact nestsWithin_none
            | some parts =>
                have filled : parts ≠ [] := by
                  have two := (Option.filter_eq_some_iff.1 splits).2
                  rintro rfl
                  simp at two
                refine Meets.bind
                  (((session.within start stop).readItems_bounded slot key parts).imp ?_)
                intro answer bounded found same
                obtain ⟨items, rfl, rfl⟩ := Option.map_eq_some_iff.1 same
                exact (bounded items rfl).resolve_right fun empty => filled empty.1
          · simp only [if_neg plural]
            exact nestsWithin_none

theorem Session.readValue_bounded (slot : Slot) (key : TypeKey) :
    (session.readValue slot key).Meets Bounded (NestsWithin session.depth) := by
  rw [readValue]
  by_cases shut : session.isShut = true
  · rw [if_pos shut]
    exact nestsWithin_none
  · obtain ⟨-, within⟩ := session.of_not_isShut shut
    rw [if_neg shut]
    cases session.source.writtenOut? session.tokens key with
    | some expression => exact nestsWithin_some within
    | none =>
        cases session.source.fromString? session.tokens key with
        | some expression => exact nestsWithin_some within
        | none =>
            by_cases only : slot.literalOnly = true
            · simp only [if_pos only]
              exact nestsWithin_none
            · simp only [if_neg only]
              exact meets_query.2 fun _ bounded => bounded

theorem Session.tryCandidates_bounded {α : Type} (candidates : List (Candidate α)) :
    (session.tryCandidates candidates).Meets Bounded (NestsWithin session.depth) := by
  induction candidates with
  | nil => exact nestsWithin_none
  | cons candidate later ih =>
      refine meets_query_bind.2 fun answer bounded => ?_
      cases answer with
      | none => exact ih
      | some bindings =>
          simp only
          cases candidate.accept _ with
          | none => exact ih
          | some accepted => exact nestsWithin_some (bounded bindings rfl)

/-- Whatever is asked, what is found is bounded if the answers to the program's own questions are. -/
theorem answering_bounded (question : Question) (shallow : question.Shallow) :
    question.answering.Meets Bounded question.Bounded := by
  cases question with
  | rest session todo start => exact session.matchRest_bounded shallow todo start
  | slot session place start stop => exact session.readPiece_bounded place start stop
  | value session place key => exact session.readValue_bounded place key
  | expression session target =>
      rw [answering, Session.readExpression]
      split
      · exact nestsWithin_none
      · exact session.tryCandidates_bounded _
  | effect session => exact session.tryCandidates_bounded _
  | event session => exact session.tryCandidates_bounded _

end Nesting

/-! ### Runs -/

namespace Question

/-- A run that answers the question comes to this answer, and answers these questions on the way. -/
def RunsTo (question : Question) (answer : question.Answer) (answered : List (Answered Answer)) : Prop :=
  Program.Ends answering question.answering answer answered

/-- A run that comes to what is read, as does each question in it. It opens windows up to two levels below the
deepest one in which anything is read, it finds nothing in the windows below that one, and the slots that are
bound in what it finds nest no deeper than that one. -/
structure StaysShallow (question : Question) (read? : Option question.Found) (answer : question.Answer)
    (answered : List (Answered Answer)) : Prop where
  asRead : answer.map Nested.value = read?
  each_asRead : ∀ each ∈ answered, each.question.AnsweredAsRead each.answer
  windows : ∀ each ∈ answered, each.question.depth ≤ maxDepth + 2
  nothing : ∀ each ∈ answered, maxDepth < each.question.depth → each.answer = none
  nesting : ∀ found, answer = some found → found.nesting ≤ maxDepth

/-- Reading ends: a run that answers the question comes to an end, and all runs stay shallow. -/
structure EndsShallow (question : Question) (read? : Option question.Found) : Prop where
  ends : ∃ answer answered, question.RunsTo answer answered
  shallow : ∀ answer answered, question.RunsTo answer answered →
    question.StaysShallow read? answer answered

variable {question : Question}

theorem Shallow.depth_le (shallow : question.Shallow) : question.depth ≤ maxDepth + 2 := by
  cases question with
  | value session place key => exact shallow
  | slot session place start stop => exact Nat.le_succ_of_le (Nat.succ_le_succ shallow)
  | rest session todo start => exact Nat.le_add_right_of_le shallow
  | expression session target => exact Nat.le_add_right_of_le shallow
  | effect session => exact Nat.le_add_right_of_le shallow
  | event session => exact Nat.le_add_right_of_le shallow

theorem Bounded.eq_none {answer : question.Answer} (bounded : question.Bounded answer)
    (tooDeep : maxDepth < question.depth) : answer = none := by
  cases answer with
  | none => rfl
  | some found =>
      have within := bounded found rfl
      omega

section Runs

variable {answer : question.Answer} {answered : List (Answered Answer)}
  (runs : question.RunsTo answer answered) (shallow : question.Shallow)

include runs shallow

/-- All that is asked in a run is answered with what is read. -/
theorem RunsTo.asRead : question.AnsweredAsRead answer
    ∧ ∀ each ∈ answered, each.question.Shallow ∧ each.question.AnsweredAsRead each.answer :=
  Program.Ends.spec answering_asks_shallow (fun question _ => answering_meets question) runs
    (answering_asks_shallow question shallow) (answering_meets question)

/-- All that is asked in a run is shallow, and what is found is bounded. -/
theorem RunsTo.bounded : question.Bounded answer
    ∧ ∀ each ∈ answered, each.question.Shallow ∧ each.question.Bounded each.answer :=
  Program.Ends.spec answering_asks_shallow answering_bounded runs
    (answering_asks_shallow question shallow) (answering_bounded question shallow)

end Runs

theorem endsShallow (question : Question) (shallow : question.Shallow) :
    question.EndsShallow question.found? where
  ends := Program.exists_ends wellFounded_measure answering_asks question shallow
  shallow answer answered runs := by
    obtain ⟨asRead, each_asRead⟩ := runs.asRead shallow
    obtain ⟨bounded, each_bounded⟩ := runs.bounded shallow
    refine ⟨asRead, ?_, ?_, ?_, ?_⟩
    · exact fun each listed => (each_asRead each listed).2
    · exact fun each listed => (each_bounded each listed).1.depth_le
    · exact fun each listed => (each_bounded each listed).2.eq_none
    · exact fun found same => Nat.le_of_add_left_le (bounded found same)

end Question

/-- Reading ends, whatever the registries hold: patterns of expressions may be a lone slot, or match with all
but one slot left out, and be tried again and again on the same tokens. A text that is read as an effect, as
an expression of a type or as the header of an event is read by a run that ends; and in all such runs windows
nest up to two levels below the deepest one in which anything is read, nothing is found in those, and the
slots that are bound in what is read, with a level for each item of a list, nest no deeper than that. -/
theorem reading_ends (registries : Registries) (world : World) (text : String) :
    (∀ options, (Question.effect (.ofText registries world options text)).EndsShallow
        (registries.searchEffect world text options).effect?)
      ∧ (∀ options target, (Question.expression (.ofText registries world options text) target).EndsShallow
        (registries.parseExpression world text target options))
      ∧ (Question.event (.ofText registries world { context := .event } text)).EndsShallow
        (registries.parseEvent world text) := by
  have shallow : 0 ≤ maxDepth := Nat.zero_le _
  refine ⟨fun options => ?_, fun options target => ?_, ?_⟩
  · exact Question.endsShallow (.effect _) shallow
  · exact Question.endsShallow (.expression _ target) shallow
  · rw [Registries.parseEvent_eq]
    exact Question.endsShallow (.event _) shallow

end ScriptBridge.Parsing
