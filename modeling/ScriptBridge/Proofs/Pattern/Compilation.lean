import ScriptBridge.Proofs.Pattern.Running
/-!
Compiling accepts exactly the grammar of patterns. A run that comes to a good end splits the text in front
of it into what the grammar reads and what ends the branch. This is by induction on the length of the text:
that what the grammar reads is taken whole tells with which state the run goes on behind each piece.
-/

namespace ScriptBridge

open Syntax

/-- The text begins with what ends a branch, if it goes on at all. -/
def EndsBranch (text : List Char) : Prop :=
  ∀ c later, text = c :: later → c = '|' ∨ c = ')' ∨ c = ']'

/-- What follows an open group is closed, or goes on with the next branch. -/
theorem Compiler.closes_of_run {draft outer : Draft} {bracket : Bracket} {before : List Branch}
    {groups : List OpenGroup} {number : Nat} {text : List Char} {final : Compiler}
    (runs : run ⟨draft, ⟨bracket, before, outer⟩ :: groups, .plain, number⟩ text = .ok final)
    (ended : final.Ended) (ends : EndsBranch text) :
    ∃ later, text = bracket.closing :: later ∨ text = '|' :: later := by
  cases text with
  | nil =>
      cases runs
      cases ended.groups
  | cons c later =>
      refine ⟨later, ?_⟩
      obtain ⟨next, steps, -⟩ := exists_step_of_run runs
      rcases ends c later rfl with rfl | rfl | rfl
      · exact Or.inr rfl
      · cases bracket with
        | round => exact Or.inl rfl
        | square => cases steps
      · cases bracket with
        | round => cases steps
        | square => exact Or.inl rfl

/-- Runs that end well have taken a sequence up to what ends its branch, for texts up to a length. -/
def SequencesUpTo (bound : Nat) : Prop :=
  ∀ ⦃draft : Draft⦄ ⦃groups : List OpenGroup⦄ ⦃number : Nat⦄ ⦃run : List Char⦄ ⦃final : Compiler⦄
    ⦃text : List Char⦄, text.length ≤ bound →
    Compiler.run ⟨draft, groups, .plain, number⟩ text = .ok final → final.Ended →
    draft.literal = run.reverse → draft.Untagged text →
    ∃ inside rest nodes next, text = inside ++ rest ∧ SequenceReads number run inside nodes next
      ∧ EndsBranch rest

/-- A run that ends well has taken a branch from its beginning. -/
theorem branch_of_run {bound number : Nat} {groups : List OpenGroup} {final : Compiler}
    (sequences : SequencesUpTo bound) {text : List Char} (short : text.length ≤ bound)
    (runs : Compiler.run ⟨{ fresh := true }, groups, .plain, number⟩ text = .ok final)
    (ended : final.Ended) :
    ∃ inside rest branch next, text = inside ++ rest ∧ BranchReads number inside branch next
      ∧ EndsBranch rest := by
  by_cases tagged : BeginsTagged text
  · obtain ⟨word, behind, nonempty, letters, rfl⟩ := tagged
    rw [Compiler.run_tag nonempty letters] at runs
    obtain ⟨inside, rest, nodes, next, rfl, reads, ends⟩ :=
      sequences (by simp at short; omega) runs ended List.reverse_nil.symm
        (Draft.untagged_of_not_fresh rfl _)
    exact ⟨word ++ ':' :: inside, rest, _, next, by simp, .tagged nonempty letters reads, ends⟩
  · obtain ⟨inside, rest, nodes, next, rfl, reads, ends⟩ :=
      sequences short runs ended List.reverse_nil.symm (Draft.untagged_of_not_beginsTagged tagged)
    refine ⟨inside, rest, _, next, rfl, .untagged ?_ reads, ends⟩
    rintro ⟨word, behind, nonempty, letters, rfl⟩
    exact tagged ⟨word, behind ++ rest, nonempty, letters, by simp⟩

/-- A run that ends well has taken the branches of a group up to its closing bracket. -/
theorem branches_of_run {bound number : Nat} {groups : List OpenGroup} {final : Compiler}
    (sequences : SequencesUpTo bound) {bracket : Bracket} {before : List Branch} {outer : Draft}
    {text : List Char} (short : text.length ≤ bound)
    (runs : Compiler.run ⟨{ fresh := true }, ⟨bracket, before, outer⟩ :: groups, .plain, number⟩ text
      = .ok final)
    (ended : final.Ended) :
    ∃ inside rest branches next, text = inside ++ bracket.closing :: rest
      ∧ BranchesRead number inside branches next := by
  obtain ⟨inside, rest, branch, next, same, reads, ends⟩ := branch_of_run sequences short runs ended
  obtain ⟨done, -, goes⟩ := reads.run_eq (⟨bracket, before, outer⟩ :: groups) rest
  rw [same, goes] at runs
  obtain ⟨later, rfl | rfl⟩ := Compiler.closes_of_run runs ended ends
  · exact ⟨inside, later, [branch], next, same, .last reads⟩
  · rw [Compiler.run_cons _ (Compiler.step_bar bracket before outer)] at runs
    have shorter : later.length < text.length := by
      rw [same, List.length_append, List.length_cons]
      omega
    obtain ⟨others, behind, branches, last, rfl, readsOthers⟩ :=
      branches_of_run sequences (by omega) runs ended
    exact ⟨inside ++ '|' :: others, behind, branch :: branches, last, by rw [same]; simp,
      .more reads readsOthers⟩
termination_by text.length

theorem Syntax.not_mem_marks {c : Char} (goesOn : ¬ (c = '|' ∨ c = ')' ∨ c = ']')) (escape : c ≠ '\\')
    (percent : c ≠ '%') (opens : ∀ bracket : Bracket, c ≠ bracket.opening) : c ∉ marks := by
  have roundOpens := opens .round
  have squareOpens := opens .square
  simp only [Bracket.opening] at roundOpens squareOpens
  simp only [not_or] at goesOn
  simp [marks, escape, percent, roundOpens, squareOpens, goesOn]

/-- A run that ends well and is not at the end of a branch has taken one more piece of a sequence, and
what follows is a sequence behind that piece. -/
theorem exists_piece_of_run {bound number : Nat} {groups : List OpenGroup} {final : Compiler}
    (sequences : SequencesUpTo bound) {draft : Draft} {run : List Char} {c : Char} {text : List Char}
    (short : text.length ≤ bound)
    (runs : Compiler.run ⟨draft, groups, .plain, number⟩ (c :: text) = .ok final)
    (ended : final.Ended) (pending : draft.literal = run.reverse) (untagged : draft.Untagged (c :: text))
    (goesOn : ¬ (c = '|' ∨ c = ')' ∨ c = ']')) :
    ∃ piece behind draft' number' run', c :: text = piece ++ behind ∧ behind.length ≤ bound
      ∧ Compiler.run ⟨draft', groups, .plain, number'⟩ behind = .ok final
      ∧ draft'.literal = run'.reverse ∧ draft'.Untagged behind
      ∧ ∀ {inside nodes next}, SequenceReads number' run' inside nodes next →
          ∃ all, SequenceReads number run (piece ++ inside) all next := by
  by_cases escape : c = '\\'
  · subst escape
    cases text with
    | nil => exact absurd ended (Compiler.not_ended_of_run_backslash runs)
    | cons d behind =>
        have shorter : behind.length ≤ bound := Nat.le_of_succ_le short
        by_cases letter : Text.isAlphanumeric d = true
        · rw [Compiler.run_letter letter] at runs
          exact ⟨['\\', d], behind, _, number, run ++ [d], rfl, shorter, runs, by simp [pending],
            Draft.untagged_of_not_fresh rfl _, fun reads => ⟨_, .escapedLetter letter reads⟩⟩
        · rw [Bool.not_eq_true] at letter
          rw [Compiler.run_mark letter] at runs
          exact ⟨['\\', d], behind, _, number, [], rfl, shorter, runs, rfl,
            Draft.untagged_of_not_fresh rfl _, fun reads => ⟨_, .escapedMark letter reads⟩⟩
  by_cases percent : c = '%'
  · subst percent
    obtain ⟨body, behind, rfl, closed, named⟩ := Compiler.exists_slot_of_run runs ended
    rw [← List.cons_append, Compiler.run_slot closed named] at runs
    refine ⟨'%' :: body ++ ['%'], behind, _, number + 1, [], by simp, ?_, runs, rfl,
      Draft.untagged_of_not_fresh rfl _, ?_⟩
    · simp only [List.length_append, List.length_cons] at short
      omega
    · intro inside nodes next reads
      rw [List.append_assoc]
      exact ⟨_, .slot closed named reads⟩
  by_cases opens : ∃ bracket : Bracket, c = bracket.opening
  · obtain ⟨bracket, rfl⟩ := opens
    rw [Compiler.run_cons _ (Compiler.step_opening bracket)] at runs
    obtain ⟨enclosed, behind, branches, middle, rfl, holds⟩ := branches_of_run sequences short runs ended
    rw [holds.run_eq] at runs
    refine ⟨bracket.opening :: enclosed ++ [bracket.closing], behind, _, middle, [], by simp, ?_, runs,
      rfl, Draft.untagged_of_not_fresh rfl _, ?_⟩
    · simp only [List.length_append, List.length_cons] at short
      omega
    · intro inside nodes next reads
      rw [List.append_assoc]
      exact ⟨_, .group holds ((groupStands_iff holds.ne_nil).2 rfl) reads⟩
  have ordinary := not_mem_marks goesOn escape percent (not_exists.1 opens)
  rw [Compiler.run_cons _ (Compiler.step_untagged ordinary untagged)] at runs
  exact ⟨[c], text, _, number, run ++ [c], rfl, short, runs, by simp [pending], untagged.literal,
    fun reads => ⟨_, .plain ordinary reads⟩⟩

/-- A run that ends well has taken a sequence up to what ends its branch, however long the text is. -/
theorem sequencesUpTo (bound : Nat) : SequencesUpTo bound := by
  have nothing : EndsBranch [] := by
    rintro c later impossible
    cases impossible
  induction bound with
  | zero =>
      intro draft groups number run final text short runs ended pending untagged
      obtain rfl := List.eq_nil_of_length_eq_zero (Nat.le_zero.1 short)
      exact ⟨[], [], _, _, rfl, .done, nothing⟩
  | succ bound ih =>
      intro draft groups number run final text short runs ended pending untagged
      cases text with
      | nil => exact ⟨[], [], _, _, rfl, .done, nothing⟩
      | cons c text =>
          by_cases ends : c = '|' ∨ c = ')' ∨ c = ']'
          · refine ⟨[], c :: text, _, _, rfl, .done, ?_⟩
            rintro d later same
            cases same
            exact ends
          · obtain ⟨piece, behind, draft', number', run', split, shorter, goes, pending', untagged',
              extends_⟩ := exists_piece_of_run ih (Nat.le_of_succ_le_succ short) runs ended pending
                untagged ends
            obtain ⟨inside, rest, nodes, next, rfl, reads, endsThere⟩ :=
              ih shorter goes ended pending' untagged'
            obtain ⟨all, readsAll⟩ := extends_ reads
            exact ⟨piece ++ inside, rest, all, next, by rw [split, List.append_assoc], readsAll,
              endsThere⟩

/-- A run over a whole text ends well exactly if the grammar reads the text, and then holds the nodes. -/
theorem run_ended_iff {text : List Char} {nodes : List Node} {count : Nat} :
    (∃ final, Compiler.run {} text = .ok final ∧ final.Ended ∧ final.slotCount = count
        ∧ final.draft.flush.nodes.reverse = nodes)
      ↔ SequenceReads 0 [] text nodes count := by
  have untagged (text : List Char) : Draft.Untagged {} text := Draft.untagged_of_not_fresh rfl _
  constructor
  · rintro ⟨final, runs, ended, rfl, rfl⟩
    obtain ⟨inside, rest, nodes, next, rfl, reads, ends⟩ :=
      sequencesUpTo text.length (Nat.le_refl _) runs ended List.reverse_nil.symm (untagged text)
    obtain ⟨done, -, holds, goes⟩ := reads.run_eq {} [] rest rfl (untagged inside)
    rw [show ({} : Compiler) = ⟨{}, [], .plain, 0⟩ from rfl, goes] at runs
    cases rest with
    | nil =>
        cases runs
        rw [List.append_nil, holds]
        simpa using reads
    | cons c later =>
        -- outside of groups there is no branch to end
        obtain ⟨next, steps, -⟩ := Compiler.exists_step_of_run runs
        rcases ends c later rfl with rfl | rfl | rfl <;> cases steps
  · intro reads
    obtain ⟨done, -, holds, goes⟩ := reads.run_eq {} [] [] rfl (untagged text)
    rw [List.append_nil] at goes
    exact ⟨_, goes, ⟨rfl, rfl⟩, rfl, by rw [holds]; simp⟩

namespace Compiler

/-- The end of a text is accepted if nothing is open and there is a node. -/
theorem finish_eq_ok_iff {final : Compiler} {nodes : List Node} :
    final.finish = .ok nodes
      ↔ final.Ended ∧ nodes ≠ [] ∧ final.draft.flush.nodes.reverse = nodes := by
  obtain ⟨draft, groups, mode, count⟩ := final
  constructor
  · intro accepts
    unfold finish at accepts
    split at accepts
    · cases accepts
    · cases accepts
    · cases accepts
    · next plain closed =>
        simp only at accepts
        split at accepts
        · cases accepts
        · next nonempty =>
            cases accepts
            exact ⟨⟨plain, closed⟩, by simpa using nonempty, rfl⟩
  · rintro ⟨⟨rfl, rfl⟩, nonempty, rfl⟩
    simpa [finish] using nonempty

end Compiler

namespace Pattern

/-- A compiled pattern holds what the grammar reads in the text. -/
theorem reads_of_compile {source : String} {pattern : Pattern}
    (compiles : compile source = .ok pattern) :
    SequenceReads 0 [] source.toList pattern.nodes pattern.slotCount ∧ pattern.nodes ≠ []
      ∧ pattern.source = source := by
  rw [compile] at compiles
  split at compiles
  · cases compiles
  · next final runs =>
      split at compiles
      · cases compiles
      · next nodes accepts =>
          cases compiles
          obtain ⟨ended, nonempty, holds⟩ := Compiler.finish_eq_ok_iff.1 accepts
          exact ⟨run_ended_iff.1 ⟨final, runs, ended, rfl, holds⟩, nonempty, rfl⟩

/-- What the grammar reads compiles, unless it has no nodes. -/
theorem compile_of_reads {source : String} {nodes : List Node} {count : Nat}
    (reads : SequenceReads 0 [] source.toList nodes count) (nonempty : nodes ≠ []) :
    compile source = .ok { source, nodes, slotCount := count } := by
  obtain ⟨final, runs, ended, rfl, holds⟩ := run_ended_iff.2 reads
  have accepts := Compiler.finish_eq_ok_iff.2 ⟨ended, nonempty, holds⟩
  simp only [compile, runs, accepts]

/-- What does not compile is an invalid pattern. -/
theorem invalid_of_compile {source : String} {error : RegistrationError}
    (refuses : compile source = .error error) : ∃ fault, error = .invalidPattern source fault := by
  rw [compile] at refuses
  split at refuses
  · next fault _ =>
      cases refuses
      exact ⟨fault, rfl⟩
  · split at refuses
    · next fault _ =>
        cases refuses
        exact ⟨fault, rfl⟩
    · cases refuses

/-- The slots of a compiled pattern are numbered in their order. -/
theorem numbers_of_compile {source : String} {pattern : Pattern}
    (compiles : compile source = .ok pattern) : Numbers pattern.slots 0 pattern.slotCount :=
  (reads_of_compile compiles).1.numbers

/-- A text compiles exactly if the grammar of patterns reads it as one node or more, and the compiled
pattern holds these nodes, with its slots numbered from left to right. Any other text is refused as an
invalid pattern. -/
theorem compile_eq_ok_iff_reads (source : String) :
    (∀ pattern, compile source = .ok pattern
        ↔ ∃ nodes count, SequenceReads 0 [] source.toList nodes count ∧ nodes ≠ []
            ∧ pattern = { source, nodes, slotCount := count })
      ∧ (∀ nodes count, SequenceReads 0 [] source.toList nodes count →
          (slotsOfNodes nodes).map Slot.index = List.range count)
      ∧ ((¬ ∃ nodes count, SequenceReads 0 [] source.toList nodes count ∧ nodes ≠ [])
          ↔ ∃ fault, compile source = .error (.invalidPattern source fault)) := by
  have accepts (pattern : Pattern) : compile source = .ok pattern
      ↔ ∃ nodes count, SequenceReads 0 [] source.toList nodes count ∧ nodes ≠ []
          ∧ pattern = { source, nodes, slotCount := count } := by
    constructor
    · intro compiles
      obtain ⟨reads, nonempty, same⟩ := reads_of_compile compiles
      exact ⟨_, _, reads, nonempty, by rw [← same]⟩
    · rintro ⟨nodes, count, reads, nonempty, rfl⟩
      exact compile_of_reads reads nonempty
  refine ⟨accepts, ?_, ?_⟩
  · intro nodes count reads
    obtain ⟨same, numbered⟩ := reads.numbers
    rw [numbered, same, Nat.zero_add, List.range_eq_range']
  · constructor
    · intro unread
      cases outcome : compile source with
      | ok pattern =>
          obtain ⟨nodes, count, reads, nonempty, -⟩ := (accepts pattern).1 outcome
          exact absurd ⟨nodes, count, reads, nonempty⟩ unread
      | error error =>
          obtain ⟨fault, rfl⟩ := invalid_of_compile outcome
          exact ⟨fault, rfl⟩
    · rintro ⟨fault, refuses⟩ ⟨nodes, count, reads, nonempty⟩
      rw [compile_of_reads reads nonempty] at refuses
      cases refuses

/-- A quoted token and a slot are read and compiled. What stands in quotes keeps its capitals, and the name of a
type loses them. -/
theorem compile_keeps_quoted_capitals :
    SequenceReads 0 [] "\"Say\" %Number%".toList
        [.literal "\"Say\"", .slot { index := 0, typeName := "number" }] 1
      ∧ ∃ pattern, compile "\"Say\" %Number%" = .ok pattern
        ∧ pattern.nodes = [.literal "\"Say\"", .slot { index := 0, typeName := "number" }]
        ∧ (slotsOfNodes pattern.nodes).map Slot.index = [0] := by
  have quoted : (Token.tokenize "\"Say\" ").map Token.patternLiteral = ["\"Say\""] := by
    decide +kernel
  have literals : Syntax.literalsOf "\"Say\" ".toList = [.literal "\"Say\""] := by
    have mapped := congrArg (List.map Node.literal) quoted
    rw [List.map_map] at mapped
    exact mapped
  have nothing : Syntax.literalsOf [] = [] := List.map_eq_nil_iff.2 (by decide +kernel)
  have slot : Syntax.slotOf 0 "Number".toList = { index := 0, typeName := "number" } := by
    decide +kernel
  have read : SequenceReads 0 [] ("\"Say\" ".toList ++ '%' :: "Number".toList ++ ['%'])
      (Syntax.literalsOf "\"Say\" ".toList
        ++ .slot (Syntax.slotOf 0 "Number".toList) :: Syntax.literalsOf []) 1 :=
    .plain (by decide) <| .plain (by decide) <| .plain (by decide) <| .plain (by decide) <|
      .plain (by decide) <| .plain (by decide) <| .slot (by decide) (by decide) .done
  rw [literals, slot, nothing] at read
  obtain ⟨compiles, numbered, -⟩ := compile_eq_ok_iff_reads "\"Say\" %Number%"
  exact ⟨read, _, (compiles _).2 ⟨_, _, read, List.cons_ne_nil _ _, rfl⟩, rfl, numbered _ _ read⟩

end Pattern

end ScriptBridge
