import ScriptBridge.Proofs.Parsing.Binding
import ScriptBridge.Proofs.Parsing.Precedence
import ScriptBridge.Proofs.Parsing.Recursion
/-!
Reading as a program that calls itself. Reading a line asks how its patterns match, a pattern asks what its
slots are read as, a slot opens a window and asks what stands there, and the patterns of expressions that are
tried there ask on. The window of a question need not be smaller than that of the question it is asked for.
Nothing ends this but the look at the depth that is taken in every window; with what was read the program
counts how deep the slots in it nest. Main statement: whatever a run comes to, it is what is read.
-/

namespace ScriptBridge

namespace Parsing

/-- Something that was read, and how deep the slots nest that are bound in it: one level for each slot that
was read, and one more for each item of a list. What a slot is bound to without reading it does not count. -/
structure Nested (α : Type) where
  value : α
  nesting : Nat := 0

namespace Nested

/-- The same, seen as something else. -/
def map {α β : Type} (f : α → β) (nested : Nested α) : Nested β where
  value := f nested.value
  nesting := nested.nesting

/-- Binds a slot to what was read in its window. -/
def bind (bindings : Nested Bindings) (slot : Slot) (found : Nested Expression) : Nested Bindings where
  value := bindings.value.bind slot found.value
  nesting := max bindings.nesting (found.nesting + 1)

/-- Puts an item in front of the items of a list. -/
def cons (item : Nested Expression) (items : Nested (List Expression)) : Nested (List Expression) where
  value := item.value :: items.value
  nesting := max (item.nesting + 1) items.nesting

end Nested

/-- A question that comes up in reading: what the rest of a pattern binds from a position on, what the tokens
between two positions are read as for a slot, what value stands in a window, what expression stands there, and
what a whole line is read as, be it an effect or the header of an event. -/
inductive Question where
  | rest (session : Session) (todo : List Node) (start : Nat)
  | slot (session : Session) (slot : Slot) (start stop : Nat)
  | value (session : Session) (slot : Slot) (key : TypeKey)
  | expression (session : Session) (target : TypeKey)
  | effect (session : Session)
  | event (session : Session)

namespace Question

/-- What is asked for. -/
@[reducible]
def Found : Question → Type
  | .rest .. => Bindings
  | .slot .. => Expression
  | .value .. => Expression
  | .expression .. => Expression
  | .effect _ => Effect
  | .event _ => EventMatch

/-- An answer: what is asked for, if there is anything. -/
abbrev Answer (question : Question) : Type :=
  Option (Nested question.Found)

end Question

/-- A program that asks questions. -/
abbrev Reads : Type → Type :=
  Program Question.Answer

/-- Asks the question. -/
abbrev Question.ask (question : Question) : Reads question.Answer :=
  Program.query question

/-- A pattern that is tried, with its number, and what is made of a match. -/
structure Candidate (α : Type) where
  pattern : Pattern
  number : Nat
  accept : Match → Option α

/-- The patterns of an entry, in the order in which they are tried. -/
def candidatesOf {α : Type} (patterns : List Pattern) (accept : Match → Option α) :
    List (Candidate α) :=
  patterns.zipIdx.map fun (pattern, number) => { pattern, number, accept }

namespace Session

/-- Tries the branches of a choice in order. -/
def tryBranches (session : Session) (todo : List Node) (start : Nat) :
    List Branch → Reads (Option (Nested Bindings))
  | [] => return none
  | branch :: later => do
    match ← (Question.rest session (branch.nodes ++ todo) start).ask with
    | some bindings => return some (bindings.map (·.enter branch.tag))
    | none => session.tryBranches todo start later

/-- Tries the pieces for a slot that end at these positions in order. The rest of the pattern must match
behind a piece before the piece itself is read. -/
def tryStops (session : Session) (slot : Slot) (todo : List Node) (start : Nat) :
    List Nat → Reads (Option (Nested Bindings))
  | [] => return none
  | stop :: later => do
    match ← (Question.rest session todo stop).ask with
    | none => session.tryStops slot todo start later
    | some bindings =>
      match ← (Question.slot session slot start stop).ask with
      | none => session.tryStops slot todo start later
      | some found => return some (bindings.bind slot found)

/-- Matches the nodes that are still to do. A group is entered by laying it open in front of what comes
after it. -/
def matchRest (session : Session) : List Node → Nat → Reads (Option (Nested Bindings))
  | [], start => return if start = session.tokens.length then some { value := {} } else none
  | .literal text :: todo, start =>
    match session.tokens[start]? with
    | none => return none
    | some token =>
      if token.isLiteral text then (Question.rest session todo (start + 1)).ask else return none
  | .choice branches :: todo, start => session.tryBranches todo start branches
  | .optional branch :: todo, start => do
    match ← (Question.rest session (branch.nodes ++ todo) start).ask with
    | some bindings => return some (bindings.map (·.enter branch.tag))
    | none =>
      let bindings ← (Question.rest session todo start).ask
      return bindings.map (Nested.map (·.skip branch.slots))
  | .slot slot :: todo, start =>
    session.tryStops slot todo start (List.range' (start + 1) (session.tokens.length - start))

/-- Reads the items of a list, each in a window below the session's. -/
def readItems (session : Session) (slot : Slot) (key : TypeKey) :
    List (Nat × Nat) → Reads (Option (Nested (List Expression)))
  | [] => return some { value := [] }
  | part :: later => do
    match ← (Question.value (session.within part.1 part.2) slot key).ask with
    | none => return none
    | some item =>
      let items ← session.readItems slot key later
      return items.map item.cons

/-- Reads the tokens between two positions for a slot. -/
def readPiece (session : Session) (slot : Slot) (start stop : Nat) : Reads (Option (Nested Expression)) :=
  match slot.key with
  | none => return none
  | some key => do
    let piece := session.within start stop
    match ← (Question.value piece slot key).ask with
    | some found => return some found
    | none =>
      if slot.plural then
        match splitList piece.tokens with
        | none => return none
        | some parts =>
          let items ← piece.readItems slot key parts
          return items.map (Nested.map (.list · key))
      else return none

/-- Whether nothing is read in the window, because it is empty or too deep. -/
def isShut (session : Session) : Bool :=
  session.tokens.isEmpty || maxDepth < session.depth

/-- Reads one value in the window. -/
def readValue (session : Session) (slot : Slot) (key : TypeKey) : Reads (Option (Nested Expression)) :=
  if session.isShut then return none
  else
    match session.source.writtenOut? session.tokens key with
    | some expression => return some { value := expression }
    | none =>
      match session.source.fromString? session.tokens key with
      | some expression => return some { value := expression }
      | none => if slot.literalOnly then return none else (Question.expression session key).ask

/-- Tries patterns in order, up to the first match that is accepted. -/
def tryCandidates {α : Type} (session : Session) : List (Candidate α) → Reads (Option (Nested α))
  | [] => return none
  | candidate :: later => do
    match ← (Question.rest session candidate.pattern.nodes 0).ask with
    | none => session.tryCandidates later
    | some bindings =>
      match candidate.accept
          (session.source.toMatch session.tokens candidate.pattern candidate.number bindings.value) with
      | none => session.tryCandidates later
      | some accepted => return some { bindings with value := accepted }

/-- The patterns of the expressions that can stand where a type is asked for. -/
def expressionCandidates (session : Session) (target : TypeKey) : List (Candidate Expression) :=
  session.source.registries.grammar.expressions.flatMap fun entry =>
    if session.source.registries.types.converts entry.returnType target then
      candidatesOf entry.patterns fun found =>
        (entry.factory found).bind (session.source.fitTo target)
    else []

/-- The patterns of effects. -/
def effectCandidates (session : Session) : List (Candidate Effect) :=
  session.source.registries.grammar.effects.flatMap fun entry =>
    candidatesOf entry.patterns entry.factory

/-- The patterns of events. -/
def eventCandidates (session : Session) : List (Candidate EventMatch) :=
  session.source.registries.wrappers.entries.flatMap fun entry =>
    candidatesOf entry.patterns fun found => some { event := entry.wrapper, name := entry.name, found }

/-- Reads an expression in the window. -/
def readExpression (session : Session) (target : TypeKey) : Reads (Option (Nested Expression)) :=
  if session.isShut then return none
  else session.tryCandidates (session.expressionCandidates target)

end Session

namespace Question

/-- The program that answers a question. -/
def answering : (question : Question) → Program Answer question.Answer
  | .rest session todo start => session.matchRest todo start
  | .slot session place start stop => session.readPiece place start stop
  | .value session place key => session.readValue place key
  | .expression session target => session.readExpression target
  | .effect session => session.tryCandidates session.effectCandidates
  | .event session => session.tryCandidates session.eventCandidates

/-- What is read, where a question asks for it. -/
def found? : (question : Question) → Option question.Found
  | .rest session todo start =>
    matchNodes session.readSlot session.tokens todo (matchEnd session.tokens) start
  | .slot session place start stop => session.readSlot place start stop
  | .value session place key =>
    session.source.valueAt (Session.levelsAt session.depth) session.tokens place key
  | .expression session target => session.expression? target
  | .effect session =>
    EffectSearch.effect?
      ⟨attempts session (Parsing.effectCandidates session.source.registries.grammar.effects)⟩
  | .event session =>
    readFirst WrapperEntry.patterns (eventMatch? session) session.source.registries.wrappers.entries

/-- A question is answered with what is read. -/
def AnsweredAsRead (question : Question) (answer : question.Answer) : Prop :=
  answer.map Nested.value = question.found?

end Question

/-! ### Answers are what is read -/

section

variable {read : SlotReader} {tokens : List Token}

theorem matchNodes_append (nodes rest : List Node) (next : Continuation) :
    matchNodes read tokens (nodes ++ rest) next
      = matchNodes read tokens nodes (matchNodes read tokens rest next) := by
  induction nodes with
  | nil =>
      funext start
      rw [List.nil_append, matchNodes]
  | cons node nodes ih =>
      funext start
      rw [List.cons_append, matchNodes, matchNodes, ih]

theorem matchBranch_eq (branch : Branch) (next : Continuation) (start : Nat) :
    matchBranch read tokens branch next start
      = (matchNodes read tokens branch.nodes next start).map (·.enter branch.tag) := by
  cases branch
  rw [matchBranch, Branch.nodes, Branch.tag]

end

section Agreement

open Program Question

variable (session : Session)

/-- What remains when these nodes are still to do. -/
def Session.continuation (todo : List Node) : Continuation :=
  matchNodes session.readSlot session.tokens todo (matchEnd session.tokens)

theorem Session.tryBranches_meets (todo : List Node) (start : Nat) (branches : List Branch) :
    (session.tryBranches todo start branches).Meets AnsweredAsRead fun answer =>
      answer.map Nested.value
        = matchAnyBranch session.readSlot session.tokens branches (session.continuation todo) start := by
  induction branches with
  | nil => exact rfl
  | cons branch later ih =>
      rw [tryBranches, meets_query_bind]
      intro answer asRead
      have asRead : answer.map Nested.value
          = matchNodes session.readSlot session.tokens branch.nodes (session.continuation todo) start := by
        rw [asRead, found?, matchNodes_append]
        rfl
      rw [matchAnyBranch, matchBranch_eq, ← asRead]
      cases answer with
      | none => exact ih
      | some bindings => exact rfl

theorem Session.tryStops_meets (slot : Slot) (todo : List Node) (start : Nat) (stops : List Nat) :
    (session.tryStops slot todo start stops).Meets AnsweredAsRead fun answer =>
      answer.map Nested.value
        = matchSlotAt session.readSlot slot (session.continuation todo) start stops := by
  induction stops with
  | nil => exact rfl
  | cons stop later ih =>
      rw [tryStops, meets_query_bind]
      intro answer asRead
      have asRead : answer.map Nested.value = session.continuation todo stop := asRead
      rw [matchSlotAt, ← asRead]
      cases answer with
      | none => exact ih
      | some bindings =>
          simp only [meets_query_bind]
          intro found asRead
          have asRead : found.map Nested.value = session.readSlot slot start stop := asRead
          rw [Option.map_some, Option.bind_some, ← asRead]
          cases found with
          | none => exact ih
          | some found => exact rfl

theorem Session.matchRest_meets (todo : List Node) (start : Nat) :
    (session.matchRest todo start).Meets AnsweredAsRead fun answer =>
      answer.map Nested.value = session.continuation todo start := by
  cases todo with
  | nil =>
      rw [matchRest, meets_pure, continuation, matchNodes, matchEnd]
      split
      · rfl
      · rfl
  | cons node todo =>
      rw [continuation, matchNodes]
      cases node with
      | literal text =>
          rw [matchRest, matchNode, matchLiteral]
          cases session.tokens[start]? with
          | none => exact rfl
          | some token =>
              by_cases fits : token.isLiteral text = true
              · simp only [if_pos fits]
                exact meets_query.2 fun answer asRead => asRead
              · simp only [if_neg fits]
                exact rfl
      | choice branches => exact session.tryBranches_meets todo start branches
      | optional branch =>
          rw [matchRest, meets_query_bind]
          intro answer asRead
          have asRead : answer.map Nested.value
              = matchNodes session.readSlot session.tokens branch.nodes (session.continuation todo)
                  start := by
            rw [asRead, found?, matchNodes_append]
            rfl
          rw [matchNode, matchBranch_eq, ← continuation, ← asRead]
          cases answer with
          | some bindings => exact rfl
          | none =>
              simp only [meets_query_bind, meets_pure]
              intro answer asRead
              have asRead : answer.map Nested.value = session.continuation todo start := asRead
              rw [← asRead, Option.map_none, Option.map_none, Option.map_map, Option.map_map]
              rfl
      | slot slot => exact session.tryStops_meets slot todo start _

theorem Session.readItems_meets (slot : Slot) (key : TypeKey) (parts : List (Nat × Nat)) :
    (session.readItems slot key parts).Meets AnsweredAsRead fun answer =>
      answer.map Nested.value
        = parts.mapM fun part => session.valueBelow (window session.tokens part.1 part.2) slot key := by
  induction parts with
  | nil => exact rfl
  | cons part later ih =>
      rw [readItems, meets_query_bind]
      intro answer asRead
      have asRead : answer.map Nested.value
          = session.valueBelow (window session.tokens part.1 part.2) slot key := asRead
      rw [List.mapM_cons, ← asRead]
      cases answer with
      | none => exact rfl
      | some item =>
          refine Meets.bind (ih.imp ?_)
          intro items same
          rw [meets_pure, ← same]
          cases items with
          | none => rfl
          | some items => rfl

theorem Session.of_not_isShut (notShut : ¬session.isShut = true) :
    ¬session.tokens.isEmpty = true ∧ session.depth ≤ maxDepth := by
  simpa [isShut] using notShut

/-- Nothing is read in a window that is shut. -/
theorem Session.valueAt_of_isShut (shut : session.isShut = true) (slot : Slot) (key : TypeKey) :
    session.source.valueAt (levelsAt session.depth) session.tokens slot key = none := by
  by_cases tooDeep : maxDepth < session.depth
  · rw [valueAt_levelsAt_of_lt _ tooDeep]
    rfl
  · have empty : session.tokens.isEmpty = true := by simpa [isShut, tooDeep] using shut
    rw [valueAt_levelsAt_of_le _ (Nat.not_lt.1 tooDeep), Source.valueWith, if_pos empty]

theorem Session.expression?_of_isShut (shut : session.isShut = true) (target : TypeKey) :
    session.expression? target = none := by
  rw [expression?]
  split
  · rfl
  · next within =>
      have empty : session.tokens.isEmpty = true := by simpa [isShut, within] using shut
      rw [Source.expression?, if_pos empty]

theorem Session.readPiece_meets (slot : Slot) (start stop : Nat) :
    (session.readPiece slot start stop).Meets AnsweredAsRead fun answer =>
      answer.map Nested.value = session.readSlot slot start stop := by
  rw [readPiece, readSlot, Source.slotReader]
  cases slot.key with
  | none => exact rfl
  | some key =>
      simp only [meets_query_bind]
      intro answer asRead
      have asRead : answer.map Nested.value
          = session.valueBelow (window session.tokens start stop) slot key := asRead
      rw [← asRead]
      cases answer with
      | some found => exact rfl
      | none =>
          simp only [Option.map_none]
          by_cases plural : slot.plural = true
          · simp only [if_pos plural, Source.listOf?]
            have same : (session.within start stop).tokens = window session.tokens start stop := rfl
            rw [same]
            cases splitList (window session.tokens start stop) with
            | none => exact rfl
            | some parts =>
                refine Meets.bind (((session.within start stop).readItems_meets slot key parts).imp ?_)
                intro items asRead
                have asRead : items.map Nested.value
                    = parts.mapM fun part =>
                        session.itemBelow (window (window session.tokens start stop) part.1 part.2)
                          slot key := asRead
                simp only [meets_pure]
                rw [← asRead, Option.map_map, Option.map_map]
                rfl
          · simp only [if_neg plural]
            exact rfl

theorem Session.readValue_meets (slot : Slot) (key : TypeKey) :
    (session.readValue slot key).Meets AnsweredAsRead fun answer =>
      answer.map Nested.value = (Question.value session slot key).found? := by
  rw [readValue, found?]
  by_cases shut : session.isShut = true
  · rw [if_pos shut]
    exact (session.valueAt_of_isShut shut slot key).symm
  · obtain ⟨inked, within⟩ := session.of_not_isShut shut
    rw [if_neg shut, valueAt_levelsAt_of_le _ within, Source.valueWith, if_neg inked]
    cases session.source.writtenOut? session.tokens key with
    | some expression => exact rfl
    | none =>
        cases session.source.fromString? session.tokens key with
        | some expression => exact rfl
        | none =>
            by_cases only : slot.literalOnly = true
            · simp only [if_pos only]
              exact rfl
            · simp only [if_neg only]
              refine meets_query.2 fun answer asRead => ?_
              rw [asRead, found?, Session.expression?, if_neg (Nat.not_lt.2 within)]
              rfl

theorem Session.tryCandidates_meets {α : Type} (candidates : List (Candidate α)) :
    (session.tryCandidates candidates).Meets AnsweredAsRead fun answer =>
      answer.map Nested.value
        = candidates.findSome? fun candidate =>
            (session.match? candidate.number candidate.pattern).bind candidate.accept := by
  induction candidates with
  | nil => exact rfl
  | cons candidate later ih =>
      rw [tryCandidates, meets_query_bind]
      intro answer asRead
      have asRead : answer.map Nested.value
          = matchPattern session.readSlot session.tokens candidate.pattern := asRead
      rw [List.findSome?_cons, match?, Source.match?, ← readSlot, ← asRead]
      cases answer with
      | none => exact ih
      | some bindings =>
          simp only [Option.map_some, Option.bind_some]
          cases candidate.accept _ with
          | none => exact ih
          | some accepted => exact rfl

theorem findSome?_candidatesOf {α : Type} (patterns : List Pattern) (accept : Match → Option α) :
    ((candidatesOf patterns accept).findSome? fun candidate =>
        (session.match? candidate.number candidate.pattern).bind candidate.accept)
      = patterns.zipIdx.findSome? fun (pattern, number) =>
          (session.match? number pattern).bind accept :=
  List.findSome?_map

theorem entryExpression?_eq (target : TypeKey) (entry : ExpressionEntry) (patterns : List Pattern)
    (number : Nat) :
    session.source.entryExpression? session.valueBelow session.itemBelow session.tokens target entry
        number patterns
      = (patterns.zipIdx number).findSome? fun (pattern, number) =>
          (session.match? number pattern).bind fun found =>
            (entry.factory found).bind (session.source.fitTo target) := by
  induction patterns generalizing number with
  | nil => rfl
  | cons pattern rest ih =>
      rw [Source.entryExpression?, List.zipIdx_cons, List.findSome?_cons, ih, ← Session.match?,
        Option.bind_assoc]
      simp only
      cases (session.match? number pattern).bind _ with
      | none => rfl
      | some expression => rfl

theorem Session.readExpression_meets (target : TypeKey) :
    (session.readExpression target).Meets AnsweredAsRead fun answer =>
      answer.map Nested.value = session.expression? target := by
  rw [readExpression]
  by_cases shut : session.isShut = true
  · rw [if_pos shut]
    exact (session.expression?_of_isShut shut target).symm
  · obtain ⟨inked, within⟩ := session.of_not_isShut shut
    rw [if_neg shut]
    refine (session.tryCandidates_meets _).imp fun answer asRead => asRead.trans ?_
    rw [expression?, if_neg (Nat.not_lt.2 within), Source.expression?, if_neg inked,
      expressionCandidates, findSome?_flatMap]
    refine congrArg (List.findSome? · _) (funext fun entry => ?_)
    split
    · rw [findSome?_candidatesOf, entryExpression?_eq]
    · rfl

theorem Session.tryCandidates_effects_meets :
    (session.tryCandidates session.effectCandidates).Meets AnsweredAsRead fun answer =>
      answer.map Nested.value = (Question.effect session).found? := by
  refine (session.tryCandidates_meets _).imp fun answer asRead => asRead.trans ?_
  rw [found?, EffectSearch.effect?_eq, EffectSearch.accepted?, attempts_accepted, effectCandidates,
    Parsing.effectCandidates, findSome?_flatMap, findSome?_flatMap, List.map_findSome?]
  refine congrArg (List.findSome? · _) (funext fun entry => ?_)
  rw [findSome?_candidatesOf, Function.comp_apply, List.findSome?_map]
  rw [List.map_findSome?]
  refine congrArg (List.findSome? · _) (funext fun candidate => ?_)
  simp only [Function.comp_apply, acceptance?, Option.map_bind]
  refine congrArg (Option.bind _) (funext fun found => ?_)
  show entry.factory found = ((entry.factory found).map _).map Acceptance.effect
  rw [Option.map_map]
  exact Option.map_id'.symm

theorem Session.tryCandidates_events_meets :
    (session.tryCandidates session.eventCandidates).Meets AnsweredAsRead fun answer =>
      answer.map Nested.value = (Question.event session).found? := by
  refine (session.tryCandidates_meets _).imp fun answer asRead => asRead.trans ?_
  rw [found?, readFirst, eventCandidates, findSome?_flatMap]
  refine congrArg (List.findSome? · _) (funext fun entry => ?_)
  rw [findSome?_candidatesOf, readEntry]
  refine congrArg (List.findSome? · _) (funext fun candidate => ?_)
  exact Option.map_eq_bind.symm

/-- Whatever is asked, the program answers what is read if its own questions are so answered. -/
theorem answering_meets (question : Question) :
    question.answering.Meets AnsweredAsRead question.AnsweredAsRead := by
  cases question with
  | rest session todo start => exact session.matchRest_meets todo start
  | slot session place start stop => exact session.readPiece_meets place start stop
  | value session place key => exact session.readValue_meets place key
  | expression session target => exact session.readExpression_meets target
  | effect session => exact session.tryCandidates_effects_meets
  | event session => exact session.tryCandidates_events_meets

end Agreement

end Parsing

end ScriptBridge
