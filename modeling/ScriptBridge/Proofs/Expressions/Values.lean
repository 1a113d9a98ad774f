import ScriptBridge.Expression
/-!
What asking an expression for values of a type comes to. For the types that the program knows, every value
holds one thing and is made of it again. So an expression that is asked for all it has answers just if its
values are made of the answers, one of each in order, and one that is asked for a single thing answers just
if its only value is made of that.
-/

namespace ScriptBridge

variable {α : Type} {kind : ValueKind α} {a : α} {held : List α}

namespace ValueKind

/-- A kind whose values are just those that it makes, each of what it holds. -/
def Faithful (kind : ValueKind α) : Prop :=
  ∀ value a, kind.ofValue? value = some a ↔ value = kind.toValue a

theorem faithful_text : Faithful .text := by
  intro value content
  cases value with
  | text other => exact Option.some_inj.trans (Value.text.injEq ..).to_iff.symm
  | _ => exact iff_of_false nofun nofun

theorem faithful_number : Faithful .number := by
  intro value x
  cases value with
  | number other => exact Option.some_inj.trans (Value.number.injEq ..).to_iff.symm
  | _ => exact iff_of_false nofun nofun

theorem faithful_boolean : Faithful .boolean := by
  intro value b
  cases value with
  | boolean other => exact Option.some_inj.trans (Value.boolean.injEq ..).to_iff.symm
  | _ => exact iff_of_false nofun nofun

theorem faithful_entity : Faithful .entity := by
  intro value ref
  cases value with
  | entity other => exact Option.some_inj.trans (Value.entity.injEq ..).to_iff.symm
  | _ => exact iff_of_false nofun nofun

theorem faithful_player : Faithful .player := by
  intro value ref
  cases value with
  | player other => exact Option.some_inj.trans (Value.player.injEq ..).to_iff.symm
  | _ => exact iff_of_false nofun nofun

theorem faithful_position : Faithful .position := by
  intro value p
  cases value with
  | position other => exact Option.some_inj.trans (Value.position.injEq ..).to_iff.symm
  | _ => exact iff_of_false nofun nofun

theorem get_eq_ok_iff (faithful : kind.Faithful) {value : Value} :
    kind.get value = .ok a ↔ value = kind.toValue a := by
  rw [← faithful, get]
  split
  · next other holds => rw [holds, Except.ok.injEq, Option.some_inj]
  · next nothing => rw [nothing]; exact iff_of_false nofun nofun

theorem getAll_cons_eq_ok_iff {value : Value} {rest : List Value} :
    kind.getAll (value :: rest) = .ok held ↔ ∃ first others, held = first :: others
      ∧ kind.get value = .ok first ∧ kind.getAll rest = .ok others := by
  rw [getAll]
  cases kind.get value with
  | error error => simp
  | ok first =>
      cases kind.getAll rest with
      | error error => simp [Except.map]
      | ok others => simp [Except.map, eq_comm]

theorem getAll_eq_ok_iff (faithful : kind.Faithful) {values : List Value} :
    kind.getAll values = .ok held ↔ values = held.map kind.toValue := by
  induction values generalizing held with
  | nil =>
      rw [getAll, Except.ok.injEq]
      exact eq_comm.trans (List.map_eq_nil_iff.symm.trans eq_comm)
  | cons value rest ih =>
      rw [getAll_cons_eq_ok_iff, @eq_comm _ (value :: rest), List.map_eq_cons_iff]
      simp only [get_eq_ok_iff faithful, ih, eq_comm]

end ValueKind

namespace Expression

variable {expression : Expression} {world : World} {event : Event}

theorem all_eq_ok_iff (faithful : kind.Faithful) :
    expression.all kind world event = .ok held
      ↔ expression.values world event = .ok (held.map kind.toValue) := by
  rw [all]
  split
  · next error fails => rw [fails]; exact iff_of_false nofun nofun
  · next values evaluated => rw [evaluated, ValueKind.getAll_eq_ok_iff faithful, Except.ok.injEq]

theorem require_eq_ok_iff (faithful : kind.Faithful) :
    expression.require kind world event = .ok a
      ↔ expression.values world event = .ok [kind.toValue a] := by
  cases evaluated : expression.values world event with
  | error error => simp [require, single, value?, evaluated]
  | ok values =>
      match values with
      | [] => simp [require, single, value?, evaluated]
      | [value] =>
          have single : expression.require kind world event = .ok a ↔ kind.get value = .ok a := by
            simp only [require, single, value?, evaluated]
            cases kind.get value with
            | error error => exact iff_of_false nofun nofun
            | ok other => exact Iff.rfl
          rw [single, ValueKind.get_eq_ok_iff faithful]
          simp
      | first :: second :: rest => simp [require, single, value?, evaluated]

end Expression

end ScriptBridge
