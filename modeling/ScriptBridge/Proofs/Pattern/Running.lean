import ScriptBridge.Proofs.Pattern.Syntax
/-!
Compiling takes what the grammar of patterns reads. A text that the grammar reads is taken character by
character, whatever stands behind it, and leaves its nodes with the branch under construction. Tags, escapes
and slots are taken whole, each by a lemma of its own, and sequences and groups by recursion on how the
grammar reads them.
-/

namespace ScriptBridge

open Syntax

namespace Text

theorem lowerChar_ne_nil (c : Char) : lowerChar c ≠ [] := by
  unfold lowerChar
  split
  · exact List.cons_ne_nil _ _
  · split
    · exact List.cons_ne_nil _ _
    · split <;> exact List.cons_ne_nil _ _

/-- Nothing vanishes in lower case. -/
theorem lowercase_isEmpty (cs : List Char) :
    (lowercase (String.ofList cs)).isEmpty = cs.isEmpty := by
  cases cs with
  | nil => rfl
  | cons c rest =>
      have nonempty : lowercaseFrom [] (c :: rest) ≠ [] := by
        rw [lowercaseFrom]
        intro nothing
        obtain ⟨none, -⟩ := List.append_eq_nil_iff.1 nothing
        split at none
        · cases none
        · exact lowerChar_ne_nil c none
      rw [lowercase, String.toList_ofList]
      simpa using nonempty

end Text

namespace Compiler

theorem run_cons {compiler next : Compiler} {c : Char} (text : List Char)
    (steps : compiler.step c = .ok next) : compiler.run (c :: text) = next.run text := by
  rw [run, steps]

theorem exists_step_of_run {compiler final : Compiler} {c : Char} {text : List Char}
    (runs : compiler.run (c :: text) = .ok final) :
    ∃ next, compiler.step c = .ok next ∧ next.run text = .ok final := by
  rw [run] at runs
  split at runs
  · cases runs
  · next next steps => exact ⟨next, steps, runs⟩

/-- A run has come to a good end: no group, slot or escape is open. -/
structure Ended (final : Compiler) : Prop where
  mode : final.mode = .plain
  groups : final.groups = []

end Compiler

/-- The literals that are pending in a branch are those of its literal text. -/
theorem Draft.nodes_flush {draft : Draft} {run : List Char} (pending : draft.literal = run.reverse) :
    draft.flush.nodes = (literalsOf run).reverse ++ draft.nodes := by
  rw [flush, pending, List.reverse_reverse]
  rfl

/-- A node that ends the pending literal text stands behind it. -/
theorem Draft.nodes_push {draft : Draft} {run : List Char} (pending : draft.literal = run.reverse)
    (node : Node) (nodes : List Node) :
    nodes.reverse ++ (draft.flush.push node).nodes
      = (literalsOf run ++ node :: nodes).reverse ++ draft.nodes := by
  simp [push, nodes_flush pending]

/-- Nothing of this text is taken as the tag of the branch. -/
def Draft.Untagged (draft : Draft) (text : List Char) : Prop :=
  draft.fresh = true → ∀ word rest, (∀ c ∈ word, Text.isWordChar c = true) →
    text = word ++ ':' :: rest → draft.literal = [] ∧ word = []

theorem Draft.untagged_of_not_fresh {draft : Draft} (stale : draft.fresh = false) (text : List Char) :
    draft.Untagged text := by
  intro fresh
  rw [stale] at fresh
  cases fresh

theorem Draft.untagged_of_not_beginsTagged {text : List Char} (plain : ¬ BeginsTagged text) :
    Draft.Untagged { fresh := true } text := by
  intro _ word rest letters same
  exact ⟨rfl, Classical.byContradiction fun nonempty => plain ⟨word, rest, nonempty, letters, same⟩⟩

theorem Syntax.not_mem_marks_of_isWordChar {c : Char} (letter : Text.isWordChar c = true) :
    c ∉ marks ∧ c ≠ ':' := by
  constructor
  · intro listed
    simp only [marks, List.mem_cons, List.not_mem_nil, or_false] at listed
    rcases listed with rfl | rfl | rfl | rfl | rfl | rfl | rfl <;> revert letter <;> decide
  · rintro rfl
    revert letter
    decide

namespace Compiler

variable {draft : Draft} {groups : List OpenGroup} {number : Nat} {c : Char}

/-- Outside of slots and escapes, a character that is no mark is literal text, unless it is a colon that
ends a tag. -/
theorem step_ordinary (ordinary : c ∉ marks) :
    step ⟨draft, groups, .plain, number⟩ c
      = if c = ':' && draft.fresh && !draft.literal.isEmpty then
          .ok (takeTag ⟨draft, groups, .plain, number⟩)
        else .ok (literal ⟨draft, groups, .plain, number⟩ c) := by
  simp only [marks, List.mem_cons, List.not_mem_nil, or_false, not_or] at ordinary
  obtain ⟨escape, roundOpens, roundCloses, squareOpens, squareCloses, bar, percent⟩ := ordinary
  simp [step, escape, roundOpens, roundCloses, squareOpens, squareCloses, bar, percent]

theorem step_untagged {text : List Char} (ordinary : c ∉ marks)
    (untagged : draft.Untagged (c :: text)) :
    step ⟨draft, groups, .plain, number⟩ c = .ok (literal ⟨draft, groups, .plain, number⟩ c) := by
  rw [step_ordinary ordinary, if_neg]
  intro ends
  simp only [Bool.and_eq_true, decide_eq_true_eq, Bool.not_eq_true'] at ends
  obtain ⟨⟨rfl, fresh⟩, pending⟩ := ends
  obtain ⟨nothing, -⟩ := untagged fresh [] text (by simp) rfl
  rw [nothing] at pending
  cases pending

theorem step_opening (bracket : Bracket) :
    step ⟨draft, groups, .plain, number⟩ bracket.opening
      = .ok ⟨{ fresh := true }, ⟨bracket, [], draft.flush⟩ :: groups, .plain, number⟩ := by
  cases bracket <;> rfl

theorem step_closing (bracket : Bracket) (branches : List Branch) (outer : Draft) :
    step ⟨draft, ⟨bracket, branches, outer⟩ :: groups, .plain, number⟩ bracket.closing
      = .ok ⟨outer.push (bracket.toNode (draft.toBranch :: branches).reverse), groups, .plain,
          number⟩ := by
  cases bracket <;> rfl

theorem step_bar (bracket : Bracket) (branches : List Branch) (outer : Draft) :
    step ⟨draft, ⟨bracket, branches, outer⟩ :: groups, .plain, number⟩ '|'
      = .ok ⟨{ fresh := true }, ⟨bracket, draft.toBranch :: branches, outer⟩ :: groups, .plain,
          number⟩ := rfl

end Compiler

namespace Draft

theorem Untagged.literal {draft : Draft} {text : List Char} {c : Char}
    (untagged : draft.Untagged (c :: text)) :
    Untagged
      { draft with
        literal := c :: draft.literal
        fresh := draft.fresh && Text.isWordChar c } text := by
  intro fresh word rest letters same
  simp only [Bool.and_eq_true] at fresh
  have longer : ∀ d ∈ c :: word, Text.isWordChar d = true := by
    intro d listed
    rcases List.mem_cons.1 listed with rfl | listed
    · exact fresh.2
    · exact letters d listed
  obtain ⟨-, impossible⟩ := untagged fresh.1 (c :: word) rest longer (by rw [same]; rfl)
  cases impossible

end Draft

namespace Compiler

section Tags

variable {groups : List OpenGroup} {number : Nat} {word : List Char}

/-- At the beginning of a branch, word characters are kept as what may be its tag. -/
theorem run_word (letters : ∀ c ∈ word, Text.isWordChar c = true) (pending rest : List Char) :
    run ⟨{ literal := pending, fresh := true }, groups, .plain, number⟩ (word ++ rest)
      = run ⟨{ literal := word.reverse ++ pending, fresh := true }, groups, .plain, number⟩ rest := by
  induction word generalizing pending with
  | nil => rfl
  | cons c word ih =>
      have letter := letters c (List.mem_cons_self ..)
      obtain ⟨ordinary, noColon⟩ := not_mem_marks_of_isWordChar letter
      have steps : step ⟨{ literal := pending, fresh := true }, groups, .plain, number⟩ c
          = .ok ⟨{ literal := c :: pending, fresh := true }, groups, .plain, number⟩ := by
        rw [step_ordinary ordinary]
        simp [noColon, literal, letter]
      rw [List.cons_append, run_cons _ steps,
        ih (fun d listed => letters d (List.mem_cons_of_mem _ listed)), List.reverse_cons,
        List.append_assoc]
      rfl

/-- A tag is taken whole. -/
theorem run_tag (nonempty : word ≠ []) (letters : ∀ c ∈ word, Text.isWordChar c = true)
    (rest : List Char) :
    run ⟨{ fresh := true }, groups, .plain, number⟩ (word ++ ':' :: rest)
      = run ⟨{ tag := some (Text.lowercase (String.ofList word)) }, groups, .plain, number⟩ rest := by
  have colon : step ⟨{ literal := word.reverse ++ [], fresh := true }, groups, .plain, number⟩ ':'
      = .ok ⟨{ tag := some (Text.lowercase (String.ofList word)) }, groups, .plain, number⟩ := by
    rw [step_ordinary (by decide)]
    simp [nonempty, takeTag]
  rw [run_word letters, run_cons _ colon]

end Tags

section Escapes

variable {draft : Draft} {groups : List OpenGroup} {number : Nat} {c : Char}

/-- A letter or digit behind a backslash goes on with the literal text. -/
theorem run_letter (letter : Text.isAlphanumeric c = true) (rest : List Char) :
    run ⟨draft, groups, .plain, number⟩ ('\\' :: c :: rest)
      = run ⟨{ draft with literal := c :: draft.literal, fresh := false }, groups, .plain, number⟩
          rest := by
  have escapes : step ⟨draft, groups, .plain, number⟩ '\\'
      = .ok ⟨{ draft with fresh := false }, groups, .escaped, number⟩ := rfl
  have takes : step ⟨{ draft with fresh := false }, groups, .escaped, number⟩ c
      = .ok ⟨{ draft with literal := c :: draft.literal, fresh := false }, groups, .plain,
          number⟩ := by
    simp [step, escaped, letter]
  rw [run_cons _ escapes, run_cons _ takes]

/-- Any other character behind a backslash is a literal of its own. -/
theorem run_mark (mark : Text.isAlphanumeric c = false) (rest : List Char) :
    run ⟨draft, groups, .plain, number⟩ ('\\' :: c :: rest)
      = run ⟨draft.flush.push (.literal c.toString), groups, .plain, number⟩ rest := by
  have escapes : step ⟨draft, groups, .plain, number⟩ '\\'
      = .ok ⟨{ draft with fresh := false }, groups, .escaped, number⟩ := rfl
  have takes : step ⟨{ draft with fresh := false }, groups, .escaped, number⟩ c
      = .ok ⟨draft.flush.push (.literal c.toString), groups, .plain, number⟩ := by
    simp [step, escaped, mark, Draft.flush]
  rw [run_cons _ escapes, run_cons _ takes]

/-- A backslash is never the last character of a run that ends well. -/
theorem not_ended_of_run_backslash {final : Compiler}
    (runs : run ⟨draft, groups, .plain, number⟩ ['\\'] = .ok final) : ¬ final.Ended := by
  intro ended
  cases runs
  cases ended.mode

end Escapes

section Slots

variable {draft : Draft} {groups : List OpenGroup} {number : Nat} {noDefault literalOnly : Bool}
  {body : List Char}

/-- Behind the first character of a name, flags are part of the name. -/
theorem run_name {name : List Char} (begun : name ≠ []) (open_ : '%' ∉ body) (rest : List Char) :
    run ⟨draft, groups, .slot noDefault literalOnly name, number⟩ (body ++ rest)
      = run ⟨draft, groups, .slot noDefault literalOnly (body.reverse ++ name), number⟩ rest := by
  induction body generalizing name with
  | nil => rfl
  | cons c body ih =>
      simp only [List.mem_cons, not_or] at open_
      have steps : step ⟨draft, groups, .slot noDefault literalOnly name, number⟩ c
          = .ok ⟨draft, groups, .slot noDefault literalOnly (c :: name), number⟩ := by
        simp [step, Ne.symm open_.1, begun]
      rw [List.cons_append, run_cons _ steps, ih (List.cons_ne_nil _ _) open_.2,
        List.reverse_cons, List.append_assoc]
      rfl

/-- The text of a slot is read as flags and a name behind them. -/
theorem run_body (open_ : '%' ∉ body) (rest : List Char) :
    run ⟨draft, groups, .slot noDefault literalOnly [], number⟩ (body ++ rest)
      = run
          ⟨draft, groups,
            .slot (noDefault || (body.takeWhile isFlag).contains '-')
              (literalOnly || (body.takeWhile isFlag).contains '*')
              (body.dropWhile isFlag).reverse,
            number⟩ rest := by
  induction body generalizing noDefault literalOnly with
  | nil => simp
  | cons c body ih =>
      simp only [List.mem_cons, not_or] at open_
      by_cases minus : c = '-'
      · subst minus
        have steps : step ⟨draft, groups, .slot noDefault literalOnly [], number⟩ '-'
            = .ok ⟨draft, groups, .slot true literalOnly [], number⟩ := rfl
        rw [List.cons_append, run_cons _ steps, ih open_.2]
        simp [isFlag]
      · by_cases star : c = '*'
        · subst star
          have steps : step ⟨draft, groups, .slot noDefault literalOnly [], number⟩ '*'
              = .ok ⟨draft, groups, .slot noDefault true [], number⟩ := rfl
          rw [List.cons_append, run_cons _ steps, ih open_.2]
          simp [isFlag]
        · have name : isFlag c = false := by simp [isFlag, minus, star]
          have steps : step ⟨draft, groups, .slot noDefault literalOnly [], number⟩ c
              = .ok ⟨draft, groups, .slot noDefault literalOnly [c], number⟩ := by
            simp [step, Ne.symm open_.1, minus, star]
          rw [List.cons_append, run_cons _ steps, run_name (List.cons_ne_nil _ _) open_.2]
          simp [name]

/-- The percent sign that ends a slot completes it, if there is a type name. -/
theorem step_percent (draft : Draft) (groups : List OpenGroup) (number : Nat) (body : List Char) :
    step
        ⟨draft, groups,
          .slot ((body.takeWhile isFlag).contains '-') ((body.takeWhile isFlag).contains '*')
            (body.dropWhile isFlag).reverse,
          number⟩ '%'
      = if nameIn body = [] then .error .untypedSlot
        else .ok ⟨draft.push (.slot (slotOf number body)), groups, .plain, number + 1⟩ := by
  simp only [step, if_pos, closeSlot, List.reverse_reverse, Text.lowercase_isEmpty,
    List.isEmpty_iff]
  rfl

/-- A slot is taken whole. -/
theorem run_slot (closed : '%' ∉ body) (named : nameIn body ≠ []) (rest : List Char) :
    run ⟨draft, groups, .plain, number⟩ ('%' :: body ++ '%' :: rest)
      = run ⟨draft.flush.push (.slot (slotOf number body)), groups, .plain, number + 1⟩ rest := by
  have opens : step ⟨draft, groups, .plain, number⟩ '%'
      = .ok ⟨draft.flush, groups, .slot false false [], number⟩ := rfl
  have closes := step_percent draft.flush groups number body
  rw [if_neg named] at closes
  rw [List.cons_append, run_cons _ opens, run_body closed, Bool.false_or, Bool.false_or,
    run_cons _ closes]

/-- A run that ends well has closed the slot in which it was. -/
theorem exists_slot_of_run {text : List Char} {final : Compiler}
    (runs : run ⟨draft, groups, .slot false false [], number⟩ text = .ok final)
    (ended : final.Ended) :
    ∃ body rest, text = body ++ '%' :: rest ∧ '%' ∉ body ∧ nameIn body ≠ [] := by
  by_cases listed : '%' ∈ text
  · obtain ⟨body, rest, rfl, closed⟩ := List.eq_append_cons_of_mem listed
    refine ⟨body, rest, rfl, closed, ?_⟩
    intro unnamed
    rw [run_body closed, Bool.false_or, Bool.false_or] at runs
    obtain ⟨next, steps, -⟩ := exists_step_of_run runs
    rw [step_percent, if_pos unnamed] at steps
    cases steps
  · rw [← List.append_nil text, run_body listed] at runs
    cases runs
    cases ended.mode

end Slots

end Compiler

mutual

/-- What the grammar reads is taken in order, and leaves its nodes at the end of the branch. -/
theorem SequenceReads.run_eq : ∀ {number next : Nat} {run text : List Char} {nodes : List Node},
    SequenceReads number run text nodes next →
    ∀ (draft : Draft) (groups : List OpenGroup) (after : List Char),
      draft.literal = run.reverse → draft.Untagged text →
      ∃ done : Draft, done.tag = draft.tag ∧ done.flush.nodes = nodes.reverse ++ draft.nodes
        ∧ Compiler.run ⟨draft, groups, .plain, number⟩ (text ++ after)
            = Compiler.run ⟨done, groups, .plain, next⟩ after
  | _, _, _, _, _, .done, draft, _, _, pending, _ =>
      ⟨draft, rfl, Draft.nodes_flush pending, rfl⟩
  | _, _, _, _, _, .plain ordinary rest, draft, groups, after, pending, untagged => by
      obtain ⟨done, tag, nodes, goes⟩ :=
        rest.run_eq _ groups after (by simp [pending]) untagged.literal
      exact ⟨done, tag, nodes,
        (Compiler.run_cons _ (Compiler.step_untagged ordinary untagged)).trans goes⟩
  | _, _, _, _, _, @SequenceReads.escapedLetter _ _ _ _ _ c letter rest, draft, groups, after,
      pending, _ => by
      obtain ⟨done, tag, nodes, goes⟩ :=
        rest.run_eq { draft with literal := c :: draft.literal, fresh := false } groups after
          (by simp [pending]) (Draft.untagged_of_not_fresh rfl _)
      exact ⟨done, tag, nodes, (Compiler.run_letter letter _).trans goes⟩
  | _, _, _, _, _, @SequenceReads.escapedMark _ _ _ _ _ c mark rest, draft, groups, after, pending,
      _ => by
      obtain ⟨done, tag, nodes, goes⟩ := rest.run_eq (draft.flush.push (.literal c.toString))
        groups after rfl (Draft.untagged_of_not_fresh rfl _)
      exact ⟨done, tag, nodes.trans (Draft.nodes_push pending _ _),
        (Compiler.run_mark mark _).trans goes⟩
  | number, _, _, _, _, @SequenceReads.slot _ _ _ body text _ closed named rest, draft, groups,
      after, pending, _ => by
      obtain ⟨done, tag, nodes, goes⟩ := rest.run_eq (draft.flush.push (.slot (slotOf number body)))
        groups after rfl (Draft.untagged_of_not_fresh rfl _)
      refine ⟨done, tag, nodes.trans (Draft.nodes_push pending _ _), ?_⟩
      rw [List.append_assoc]
      exact (Compiler.run_slot closed named _).trans goes
  | _, _, _, _, _, @SequenceReads.group _ _ _ _ _ text bracket branches node _ holds stands rest,
      draft, groups, after, pending, _ => by
      obtain ⟨done, tag, nodes, goes⟩ := rest.run_eq (draft.flush.push node) groups after rfl
        (Draft.untagged_of_not_fresh rfl _)
      refine ⟨done, tag, nodes.trans (Draft.nodes_push pending _ _), ?_⟩
      rw [(groupStands_iff holds.ne_nil).1 stands] at goes
      rw [List.append_assoc, List.cons_append, Compiler.run_cons _ (Compiler.step_opening bracket)]
      exact (holds.run_eq bracket [] draft.flush groups (text ++ after)).trans goes

/-- A branch is taken whole from its beginning. -/
theorem BranchReads.run_eq : ∀ {number next : Nat} {text : List Char} {branch : Branch},
    BranchReads number text branch next →
    ∀ (groups : List OpenGroup) (after : List Char),
      ∃ done : Draft, done.toBranch = branch
        ∧ Compiler.run ⟨{ fresh := true }, groups, .plain, number⟩ (text ++ after)
            = Compiler.run ⟨done, groups, .plain, next⟩ after
  | _, _, _, _, @BranchReads.tagged _ _ word _ _ nonempty letters rest, groups, after => by
      let draft : Draft := { tag := some (Text.lowercase (String.ofList word)) }
      obtain ⟨done, tag, nodes, goes⟩ := rest.run_eq draft groups after rfl
        (Draft.untagged_of_not_fresh rfl _)
      refine ⟨done, ?_, ?_⟩
      · rw [Draft.toBranch, tag, nodes]
        simp [draft]
      · rw [List.append_assoc, List.cons_append, Compiler.run_tag nonempty letters, goes]
  | _, _, _, _, .untagged plain reads, groups, after => by
      obtain ⟨done, tag, nodes, goes⟩ :=
        reads.run_eq _ groups after rfl (Draft.untagged_of_not_beginsTagged plain)
      refine ⟨done, ?_, goes⟩
      rw [Draft.toBranch, tag, nodes]
      simp

/-- Branches are taken up to the bracket that closes their group. -/
theorem BranchesRead.run_eq : ∀ {number next : Nat} {text : List Char} {branches : List Branch},
    BranchesRead number text branches next →
    ∀ (bracket : Bracket) (before : List Branch) (outer : Draft) (groups : List OpenGroup)
      (after : List Char),
      Compiler.run ⟨{ fresh := true }, ⟨bracket, before, outer⟩ :: groups, .plain, number⟩
          (text ++ bracket.closing :: after)
        = Compiler.run
            ⟨outer.push (bracket.toNode (before.reverse ++ branches)), groups, .plain, next⟩ after
  | _, _, _, _, .last reads, bracket, before, outer, groups, after => by
      obtain ⟨done, branch, goes⟩ :=
        reads.run_eq (⟨bracket, before, outer⟩ :: groups) (bracket.closing :: after)
      rw [goes, Compiler.run_cons _ (Compiler.step_closing bracket before outer), branch,
        List.reverse_cons]
  | _, _, _, _, .more reads rest, bracket, before, outer, groups, after => by
      obtain ⟨done, branch, goes⟩ := reads.run_eq (⟨bracket, before, outer⟩ :: groups)
        ('|' :: _ ++ bracket.closing :: after)
      rw [List.append_assoc, goes, List.cons_append,
        Compiler.run_cons _ (Compiler.step_bar bracket before outer), branch,
        rest.run_eq bracket (_ :: before) outer groups after, List.reverse_cons,
        List.append_assoc]
      rfl

end

end ScriptBridge
