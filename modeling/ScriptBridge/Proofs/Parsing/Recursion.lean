/-!
Programs that call themselves. A program comes to a result, or it asks a question and goes on with the answer,
and what answers a question is again a program. Nothing about programs makes this end: a run that ends has to
be found. Main statements: what each program makes sure of, as far as the answers to its own questions are as
promised, holds of all runs; and there is a run that ends if a program asks nothing but what is smaller, in a
well-founded order, than the question that it answers.
-/

namespace ScriptBridge

/-- A program that asks questions on the way to its result. -/
inductive Program {Question : Type} (Answer : Question → Type) (α : Type) where
  | done (result : α)
  | ask (question : Question) (next : Answer question → Program Answer α)

/-- A question with the answer to it. -/
structure Answered {Question : Type} (Answer : Question → Type) where
  question : Question
  answer : Answer question

namespace Program

variable {Question : Type} {Answer : Question → Type} {α β : Type}

/-- Goes on with the result of a program. -/
def bind (program : Program Answer α) (next : α → Program Answer β) : Program Answer β :=
  match program with
  | .done result => next result
  | .ask question later => .ask question fun answer => (later answer).bind next

instance : Monad (Program Answer) where
  pure := .done
  bind := bind

/-- Asks one question, and comes to the answer. -/
def query (question : Question) : Program Answer (Answer question) :=
  .ask question .done

/-- Whatever the answers are, the program asks only such questions. -/
def Asks (pre : Question → Prop) : Program Answer α → Prop
  | .done _ => True
  | .ask question next => pre question ∧ ∀ answer, (next answer).Asks pre

/-- If the answers are as promised, the program comes to such a result. -/
def Meets (post : (question : Question) → Answer question → Prop) (goal : α → Prop) :
    Program Answer α → Prop
  | .done result => goal result
  | .ask question next => ∀ answer, post question answer → (next answer).Meets post goal

section

variable {pre : Question → Prop} {post : (question : Question) → Answer question → Prop}
  {goal : α → Prop} {question : Question}

@[simp]
theorem asks_pure (result : α) : (pure result : Program Answer α).Asks pre :=
  trivial

@[simp]
theorem asks_query : (query question : Program Answer _).Asks pre ↔ pre question :=
  ⟨And.left, fun holds => ⟨holds, fun _ => trivial⟩⟩

@[simp]
theorem asks_query_bind {next : Answer question → Program Answer α} :
    (query question >>= next).Asks pre ↔ pre question ∧ ∀ answer, (next answer).Asks pre :=
  Iff.rfl

theorem Asks.bind {program : Program Answer α} {next : α → Program Answer β}
    (asks : program.Asks pre) (later : ∀ result, (next result).Asks pre) :
    (program >>= next).Asks pre := by
  induction program with
  | done result => exact later result
  | ask question _ ih => exact ⟨asks.1, fun answer => ih answer (asks.2 answer)⟩

theorem Asks.imp {other : Question → Prop} {program : Program Answer α} (asks : program.Asks pre)
    (implies : ∀ question, pre question → other question) : program.Asks other := by
  induction program with
  | done result => trivial
  | ask question _ ih => exact ⟨implies question asks.1, fun answer => ih answer (asks.2 answer)⟩

@[simp]
theorem meets_pure {result : α} : (pure result : Program Answer α).Meets post goal ↔ goal result :=
  Iff.rfl

@[simp]
theorem meets_query {goal : Answer question → Prop} :
    (query question).Meets post goal ↔ ∀ answer, post question answer → goal answer :=
  Iff.rfl

@[simp]
theorem meets_query_bind {next : Answer question → Program Answer α} :
    (query question >>= next).Meets post goal
      ↔ ∀ answer, post question answer → (next answer).Meets post goal :=
  Iff.rfl

theorem Meets.bind {program : Program Answer α} {next : α → Program Answer β} {goal : β → Prop}
    (meets : program.Meets post fun result => (next result).Meets post goal) :
    (program >>= next).Meets post goal := by
  induction program with
  | done result => exact meets
  | ask question _ ih => exact fun answer promised => ih answer (meets answer promised)

theorem Meets.imp {program : Program Answer α} {other : α → Prop}
    (meets : program.Meets post goal) (implies : ∀ result, goal result → other result) :
    program.Meets post other := by
  induction program with
  | done result => exact implies result meets
  | ask question _ ih => exact fun answer promised => ih answer (meets answer promised)

end

/-! ### Runs -/

variable (answering : (question : Question) → Program Answer (Answer question))

/-- The program comes to this result, where these questions are answered on the way, first to last; the
questions that are asked for an answer stand behind the one that it answers. -/
inductive Ends : {α : Type} → Program Answer α → α → List (Answered Answer) → Prop where
  | done {α : Type} (result : α) : Ends (.done result) result []
  | ask {α : Type} {question : Question} {next : Answer question → Program Answer α}
      {answer : Answer question} {result : α} {inside later : List (Answered Answer)}
      (answers : Ends (answering question) answer inside) (rest : Ends (next answer) result later) :
      Ends (.ask question next) result (⟨question, answer⟩ :: inside ++ later)

variable {answering} {pre : Question → Prop} {post : (question : Question) → Answer question → Prop}

/-- What all programs make sure of holds of every run: only such questions are asked, and their answers are
as promised. -/
theorem Ends.spec (asks : ∀ question, pre question → (answering question).Asks pre)
    (meets : ∀ question, pre question → (answering question).Meets post (post question))
    {program : Program Answer α} {result : α} {answered : List (Answered Answer)}
    (ends : Ends answering program result answered) {goal : α → Prop} (asks_here : program.Asks pre)
    (meets_here : program.Meets post goal) :
    goal result ∧ ∀ each ∈ answered, pre each.question ∧ post each.question each.answer := by
  induction ends with
  | done result => exact ⟨meets_here, by simp⟩
  | @ask _ question next answer result inside later _ _ within behind =>
      obtain ⟨holds, asks_later⟩ := asks_here
      obtain ⟨promised, all_inside⟩ := within (asks question holds) (meets question holds)
      obtain ⟨reached, all_later⟩ := behind (asks_later answer) (meets_here answer promised)
      refine ⟨reached, ?_⟩
      simp only [List.cons_append, List.forall_mem_cons, List.forall_mem_append]
      exact ⟨⟨holds, promised⟩, all_inside, all_later⟩

/-- If all questions of a program can be answered, it comes to a result. -/
theorem Asks.exists_ends {program : Program Answer α}
    (asks : program.Asks fun question =>
      ∃ answer answered, Ends answering (answering question) answer answered) :
    ∃ result answered, Ends answering program result answered := by
  induction program with
  | done result => exact ⟨result, [], .done result⟩
  | ask question next ih =>
      obtain ⟨⟨answer, inside, answers⟩, asks_later⟩ := asks
      obtain ⟨result, later, rest⟩ := ih answer (asks_later answer)
      exact ⟨result, _, .ask answers rest⟩

/-- Every question is answered if none is asked for it but smaller ones. -/
theorem exists_ends {smaller : Question → Question → Prop} (wellFounded : WellFounded smaller)
    (descends : ∀ question, pre question →
      (answering question).Asks fun asked => pre asked ∧ smaller asked question)
    (question : Question) (holds : pre question) :
    ∃ answer answered, Ends answering (answering question) answer answered := by
  induction question using wellFounded.induction with
  | h question ih =>
      apply Asks.exists_ends
      exact (descends question holds).imp fun asked less => ih asked less.2 less.1

end Program

end ScriptBridge
