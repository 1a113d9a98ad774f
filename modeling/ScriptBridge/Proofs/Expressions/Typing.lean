import ScriptBridge.Proofs.Parsing.Resolution
/-!
Types of expressions. An expression is of a type if it says so, if it yields nothing but values of that
type, and if it never fails because something inside it is of another type. Nodes that entries build are
arbitrary functions, so this is a statement about what an expression does, and each way to make an
expression of others has a lemma that says when it holds. What holds of an expression of a type can be
asked for without a mismatch.
-/

namespace ScriptBridge

section Outcomes

variable {α β : Type}

/-- Evaluation goes wrong if it fails because something is of the wrong type. -/
def GoesWrong (outcome : Except EvalError α) : Prop :=
  ∃ error, outcome = .error error ∧ error.kind = "TypeMismatch"

theorem not_goesWrong_ok (a : α) : ¬ GoesWrong (.ok a : Except EvalError α) := by
  rintro ⟨error, impossible, -⟩
  cases impossible

theorem not_goesWrong_error {error : EvalError} (other : error.kind ≠ "TypeMismatch") :
    ¬ GoesWrong (.error error : Except EvalError α) := by
  rintro ⟨passed, same, mismatch⟩
  cases same
  exact other mismatch

/-- A failure that is passed on is of the kind it was. -/
theorem not_goesWrong_of_error {outcome : Except EvalError α} {error : EvalError}
    (right : ¬ GoesWrong outcome) (failed : outcome = .error error) :
    ¬ GoesWrong (.error error : Except EvalError β) :=
  not_goesWrong_error fun mismatch => right ⟨error, failed, mismatch⟩

theorem not_goesWrong_bind {outcome : Except EvalError α} {next : α → Except EvalError β}
    (first : ¬ GoesWrong outcome) (rest : ∀ a, outcome = .ok a → ¬ GoesWrong (next a)) :
    ¬ GoesWrong (outcome >>= next) := by
  cases outcome with
  | error error => exact not_goesWrong_of_error first rfl
  | ok a => exact rest a rfl

theorem not_goesWrong_map {outcome : Except EvalError α} (change : α → β)
    (right : ¬ GoesWrong outcome) : ¬ GoesWrong (outcome.map change) := by
  cases outcome with
  | error error => exact not_goesWrong_of_error right rfl
  | ok a => exact not_goesWrong_ok _

end Outcomes

/-- An expression of a type. -/
structure Expression.HasType (expression : Expression) (key : TypeKey) : Prop where
  declared : expression.returnType = key
  yields : ∀ {world event values}, expression.values world event = .ok values →
    ∀ value ∈ values, value.key = key
  right : ∀ world event, ¬ GoesWrong (expression.values world event)

namespace Expression.HasType

variable {key : TypeKey}

theorem literal {value : Value} (text : String) (same : value.key = key) :
    (Expression.literal value text).HasType key where
  declared := same
  yields evaluated other listed := by
    cases evaluated
    rw [List.mem_singleton.1 listed]
    exact same
  right _ _ := not_goesWrong_ok _

theorem eventValue (name : String) {read : Getter}
    (reads : ∀ world event value, read world event = some value → value.key = key) :
    (Expression.eventValue key name read).HasType key where
  declared := rfl
  yields evaluated value listed := by
    cases evaluated
    exact reads _ _ value (Option.mem_toList.1 listed)
  right _ _ := not_goesWrong_ok _

theorem converted {inner : Expression} {source : TypeKey} {convert : Converter}
    (typed : inner.HasType source)
    (converts : ∀ value converted, convert value = some converted → converted.key = key) :
    (Expression.converted inner key convert).HasType key where
  declared := rfl
  yields evaluated value listed := by
    rw [Expression.values] at evaluated
    obtain ⟨values, -, rfl⟩ := map_eq_ok evaluated
    obtain ⟨original, -, same⟩ := List.mem_filterMap.1 listed
    exact converts original value same
  right world event := by
    rw [Expression.values]
    exact not_goesWrong_map _ (typed.right world event)

end Expression.HasType

namespace Expression

variable {α : Type} {key : TypeKey} {items : List Expression} {world : World} {event : Event}

theorem valuesOfAll_cons (item : Expression) :
    valuesOfAll world event (item :: items) = (do
      let first ← item.values world event
      let others ← valuesOfAll world event items
      pure (first ++ others)) := by
  rw [valuesOfAll]
  cases item.values world event with
  | error error => rfl
  | ok first =>
      cases valuesOfAll world event items with
      | error error => rfl
      | ok others => rfl

theorem key_of_valuesOfAll (typed : ∀ item ∈ items, item.HasType key) {values : List Value}
    (evaluated : valuesOfAll world event items = .ok values) : ∀ value ∈ values, value.key = key := by
  induction items generalizing values with
  | nil =>
      cases evaluated
      simp
  | cons item rest ih =>
      rw [valuesOfAll_cons] at evaluated
      obtain ⟨first, here, evaluated⟩ := bind_eq_ok evaluated
      obtain ⟨others, there, same⟩ := bind_eq_ok evaluated
      cases same
      intro value listed
      rcases List.mem_append.1 listed with listed | listed
      · exact (typed item (List.mem_cons_self ..)).yields here value listed
      · exact ih (fun other member => typed other (List.mem_cons_of_mem _ member)) there value listed

theorem not_goesWrong_valuesOfAll (typed : ∀ item ∈ items, item.HasType key) :
    ¬ GoesWrong (valuesOfAll world event items) := by
  induction items with
  | nil => exact not_goesWrong_ok _
  | cons item rest ih =>
      rw [valuesOfAll_cons]
      apply not_goesWrong_bind ((typed item (List.mem_cons_self ..)).right world event)
      intro first _
      apply not_goesWrong_bind (ih fun other member => typed other (List.mem_cons_of_mem _ member))
      intro others _
      exact not_goesWrong_ok _

theorem HasType.list (typed : ∀ item ∈ items, item.HasType key) :
    (Expression.list items key).HasType key where
  declared := rfl
  yields evaluated := by
    rw [Expression.values] at evaluated
    exact key_of_valuesOfAll typed evaluated
  right world event := by
    rw [Expression.values]
    exact not_goesWrong_valuesOfAll typed

end Expression

/-- A kind that answers for every value of its type. -/
def ValueKind.Covers {α : Type} (kind : ValueKind α) : Prop :=
  ∀ value : Value, value.key = kind.key → (kind.ofValue? value).isSome

namespace ValueKind

theorem covers_number : Covers .number := by
  intro value same
  cases value with
  | number x => rfl
  | _ => cases same

theorem covers_text : Covers .text := by
  intro value same
  cases value with
  | text content => rfl
  | _ => cases same

theorem covers_entity : Covers .entity := by
  intro value same
  cases value with
  | entity ref => rfl
  | _ => cases same

theorem covers_player : Covers .player := by
  intro value same
  cases value with
  | player ref => rfl
  | _ => cases same

theorem covers_position : Covers .position := by
  intro value same
  cases value with
  | position p => rfl
  | _ => cases same

variable {α : Type} {kind : ValueKind α}

theorem get_of_key (covers : kind.Covers) {value : Value} (same : value.key = kind.key) :
    ∃ a, kind.get value = .ok a := by
  obtain ⟨a, holds⟩ := Option.isSome_iff_exists.1 (covers value same)
  exact ⟨a, by rw [get, holds]⟩

theorem getAll_of_key (covers : kind.Covers) {values : List Value}
    (same : ∀ value ∈ values, value.key = kind.key) : ∃ all, kind.getAll values = .ok all := by
  induction values with
  | nil => exact ⟨[], rfl⟩
  | cons value rest ih =>
      obtain ⟨a, here⟩ := get_of_key covers (same value (List.mem_cons_self ..))
      obtain ⟨others, there⟩ := ih fun other member => same other (List.mem_cons_of_mem _ member)
      refine ⟨a :: others, ?_⟩
      rw [getAll, here]
      simp only [there]
      rfl

end ValueKind

namespace Expression.HasType

variable {α : Type} {kind : ValueKind α} {expression : Expression}

theorem not_goesWrong_all (typed : expression.HasType kind.key) (covers : kind.Covers) (world : World)
    (event : Event) : ¬ GoesWrong (expression.all kind world event) := by
  rw [all]
  split
  · next error failed => exact not_goesWrong_of_error (typed.right world event) failed
  · next values evaluated =>
      obtain ⟨held, holds⟩ := ValueKind.getAll_of_key covers (typed.yields evaluated)
      rw [holds]
      exact not_goesWrong_ok _

variable {key : TypeKey} {world : World} {event : Event}

theorem key_of_value? (typed : expression.HasType key) {value : Value}
    (evaluated : expression.value? world event = .ok (some value)) : value.key = key := by
  rw [value?] at evaluated
  split at evaluated
  · cases evaluated
  · cases evaluated
  · next only values =>
      cases evaluated
      exact typed.yields values _ (List.mem_singleton_self _)
  · cases evaluated

theorem not_goesWrong_value? (typed : expression.HasType key) :
    ¬ GoesWrong (expression.value? world event) := by
  rw [value?]
  split
  · next error failed => exact not_goesWrong_of_error (typed.right world event) failed
  · exact not_goesWrong_ok _
  · exact not_goesWrong_ok _
  · exact not_goesWrong_error (by simp [EvalError.kind])

theorem not_goesWrong_single (typed : expression.HasType kind.key) (covers : kind.Covers) :
    ¬ GoesWrong (expression.single kind world event) := by
  rw [single]
  split
  · next error failed => exact not_goesWrong_of_error typed.not_goesWrong_value? failed
  · exact not_goesWrong_ok _
  · next value evaluated =>
      obtain ⟨held, holds⟩ := ValueKind.get_of_key covers (typed.key_of_value? evaluated)
      rw [holds]
      exact not_goesWrong_ok _

theorem not_goesWrong_require (typed : expression.HasType kind.key) (covers : kind.Covers)
    (world : World) (event : Event) : ¬ GoesWrong (expression.require kind world event) := by
  rw [require]
  split
  · next error failed => exact not_goesWrong_of_error (typed.not_goesWrong_single covers) failed
  · exact not_goesWrong_ok _
  · exact not_goesWrong_error (by simp [EvalError.kind])

end Expression.HasType

end ScriptBridge
