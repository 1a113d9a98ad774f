import Mathlib
import ScriptBridge.Text.Case
/-!
A text in lower case stays as it is when it is put in lower case. The runs of letters that have a partner
in lower case are apart from all partners, so that a partner has none of its own; the letters with special
rules become letters without. Hence putting in lower case twice is putting in lower case once, and a text
is in lower case if each of its characters is, whatever stands next to it.
-/

namespace ScriptBridge.Text

/-! ### ASCII characters -/

/-- What is checked of all ASCII characters holds of each. -/
theorem forall_ascii {P : Char → Prop} (checked : ∀ n < 128, P (Char.ofNat n)) {c : Char}
    (ascii : c.toNat < 128) : P c := by
  have known := checked c.toNat ascii
  rwa [Char.ofNat_toNat] at known

theorem toNat_toLower_lt {c : Char} (ascii : c.toNat < 128) : c.toLower.toNat < 128 :=
  forall_ascii (P := fun c => c.toLower.toNat < 128) (by decide) ascii

/-! ### Runs of letters and their partners -/

namespace CaseRun

/-- What is added to a letter of the run on the way to its partner. -/
def rise (run : CaseRun) : Nat :=
  run.shift.toNat

/-- What is then taken from it. -/
def fall (run : CaseRun) : Nat :=
  (-run.shift).toNat

/-- The other run maps none of the partners: it is above or below all of them, or it goes in steps of two
past each of them. -/
def misses (run other : CaseRun) : Bool :=
  Nat.blt (other.last + run.fall) (run.first + run.rise)
    || Nat.blt (run.last + run.rise) (other.first + run.fall)
    || ((run.first == run.last || run.step == 2) && other.step == 2
      && (run.first + run.rise + run.fall + other.first) % 2 == 1)

/-- The partners are letters of ASCII in lower case, or characters beyond ASCII but not the dotted
capital I. -/
def landsWell (run : CaseRun) : Bool :=
  [(97, 122), (128, 303), (305, 0xD7FF), (0xE000, 0x10FFFF)].any fun (least, greatest) =>
    Nat.ble (least + run.fall) (run.first + run.rise)
      && Nat.ble (run.last + run.rise) (greatest + run.fall)

/-- The partner of a letter of the run. -/
theorem partner_spec {run : CaseRun} {point : Nat} (covered : run.covers point = true)
    (lands : run.landsWell = true) :
    let partner := ((point : Int) + run.shift).toNat
    partner + run.fall = point + run.rise ∧ partner.isValidChar ∧ partner ≠ 'İ'.toNat
      ∧ (partner < 128 → 97 ≤ partner) := by
  simp only [covers, Bool.and_eq_true, decide_eq_true_eq] at covered
  simp [landsWell, fall, rise] at lands
  have dotted : 'İ'.toNat = 304 := rfl
  simp only [Nat.isValidChar, fall, rise, dotted]
  omega

theorem not_covers_partner {run other : CaseRun} (misses : run.misses other = true) {point : Nat}
    (covered : run.covers point = true) {partner : Nat} (same : partner + run.fall = point + run.rise) :
    other.covers partner = false := by
  simp only [covers, Bool.and_eq_true, decide_eq_true_eq, beq_iff_eq] at covered
  simp only [CaseRun.misses, Bool.or_eq_true, Bool.and_eq_true, beq_iff_eq, Nat.blt_eq] at misses
  obtain ⟨⟨first_le, le_last⟩, step⟩ := covered
  rw [Bool.eq_false_iff]
  intro again
  simp only [covers, Bool.and_eq_true, decide_eq_true_eq, beq_iff_eq] at again
  obtain ⟨⟨other_first_le, le_other_last⟩, other_step⟩ := again
  rcases misses with (above | below) | ⟨⟨alone | byTwo, otherByTwo⟩, odd⟩
  · omega
  · omega
  · rw [otherByTwo] at other_step
    omega
  · rw [otherByTwo] at other_step
    rw [byTwo] at step
    omega

end CaseRun

theorem misses_of_mem {run other : CaseRun} (listed : run ∈ lowercaseRuns)
    (other_listed : other ∈ lowercaseRuns) : run.misses other = true := by
  have checked : (lowercaseRuns.all fun run => lowercaseRuns.all run.misses) = true := by
    decide +kernel
  exact List.all_eq_true.1 (List.all_eq_true.1 checked run listed) other other_listed

theorem landsWell_of_mem {run : CaseRun} (listed : run ∈ lowercaseRuns) : run.landsWell = true := by
  have checked : lowercaseRuns.all (·.landsWell) = true := by
    decide +kernel
  exact List.all_eq_true.1 checked run listed

/-! ### Characters in lower case -/

/-- A character beyond ASCII that no run maps and that has no rule of its own stays as it is. -/
theorem lowerChar_of_not_covers {c : Char} (beyond : ¬ c.toNat < 128) (undotted : c ≠ 'İ')
    (free : ∀ run ∈ lowercaseRuns, run.covers c.toNat = false) : lowerChar c = [c] := by
  have nothing : lowercaseRuns.find? (·.covers c.toNat) = none :=
    List.find?_eq_none.2 fun run listed => by simp [free run listed]
  rw [lowerChar, if_neg beyond, if_neg undotted, nothing]

/-- The partner of a letter is in lower case. -/
theorem lowerChar_partner {run : CaseRun} (listed : run ∈ lowercaseRuns) {point : Nat}
    (covered : run.covers point = true) :
    let partner := Char.ofNat ((point : Int) + run.shift).toNat
    lowerChar partner = [partner] := by
  intro partner
  obtain ⟨place, valid, undotted, ascii⟩ := CaseRun.partner_spec covered (landsWell_of_mem listed)
  have toNat : partner.toNat = _ := (Char.toNat_ofNat _).trans (if_pos valid)
  rw [← toNat] at place undotted ascii
  by_cases small : partner.toNat < 128
  · have letter := forall_ascii (P := fun c => 97 ≤ c.toNat → c.toLower = c) (by decide) small (ascii small)
    rw [lowerChar_of_ascii small, letter]
  · apply lowerChar_of_not_covers small
    · rintro dotted
      exact undotted (congrArg Char.toNat dotted)
    · intro other other_listed
      exact CaseRun.not_covers_partner (misses_of_mem listed other_listed) covered place

/-- What a character becomes in lower case stays as it is. -/
theorem lowerChar_of_mem {c d : Char} (lowered : d ∈ lowerChar c) : lowerChar d = [d] := by
  by_cases ascii : c.toNat < 128
  · rw [lowerChar_of_ascii ascii] at lowered
    obtain rfl := List.mem_singleton.1 lowered
    rw [lowerChar_of_ascii (toNat_toLower_lt ascii), Char.toLower_toLower_eq_toLower]
  by_cases dotted : c = 'İ'
  · subst dotted
    have two : d = 'i' ∨ d = '\u0307' := by simpa [lowerChar] using lowered
    rcases two with rfl | rfl
    · decide
    · decide
  cases found : lowercaseRuns.find? (·.covers c.toNat) with
  | none =>
      have same : lowerChar c = [c] := by rw [lowerChar, if_neg ascii, if_neg dotted, found]
      rw [same] at lowered
      obtain rfl := List.mem_singleton.1 lowered
      exact same
  | some run =>
      rw [lowerChar, if_neg ascii, if_neg dotted, found] at lowered
      obtain rfl := List.mem_singleton.1 lowered
      have covered := List.find?_some (p := fun run : CaseRun => run.covers c.toNat) found
      exact lowerChar_partner (List.mem_of_find?_eq_some found) covered

/-! ### Texts in lower case -/

/-- Every character of the text is in lower case. -/
def IsLower (text : String) : Prop :=
  ∀ c ∈ text.toList, lowerChar c = [c]

instance (text : String) : Decidable (IsLower text) :=
  List.decidableBAll _ text.toList

theorem mem_lowercaseFrom {d : Char} {before cs : List Char} (lowered : d ∈ lowercaseFrom before cs) :
    lowerChar d = [d] := by
  induction cs generalizing before with
  | nil => cases lowered
  | cons c rest ih =>
      rw [lowercaseFrom] at lowered
      rcases List.mem_append.1 lowered with here | further
      · split at here
        · -- both forms of a small sigma stay as they are
          rw [List.mem_singleton] at here
          subst here
          split <;> decide
        · exact lowerChar_of_mem here
      · exact ih further

/-- What is put in lower case is in lower case. -/
theorem isLower_lowercase (text : String) : IsLower (lowercase text) := by
  intro d lowered
  rw [lowercase, String.toList_ofList] at lowered
  exact mem_lowercaseFrom lowered

theorem lowercaseFrom_of_isLower {before cs : List Char} (lower : ∀ c ∈ cs, lowerChar c = [c]) :
    lowercaseFrom before cs = cs := by
  induction cs generalizing before with
  | nil => rfl
  | cons c rest ih =>
      obtain ⟨here, others⟩ := List.forall_mem_cons.1 lower
      have small : c ≠ 'Σ' := by
        rintro rfl
        exact absurd here (by decide)
      rw [lowercaseFrom, if_neg small, here, ih others]
      rfl

/-- A text in lower case stays as it is. -/
theorem IsLower.lowercase_eq {text : String} (lower : IsLower text) : lowercase text = text := by
  rw [lowercase, lowercaseFrom_of_isLower lower, String.ofList_toList]

/-- Putting in lower case twice is putting in lower case once. -/
theorem lowercase_lowercase (text : String) : lowercase (lowercase text) = lowercase text :=
  (isLower_lowercase text).lowercase_eq

theorem IsLower.append {text other : String} (lower : IsLower text) (other_lower : IsLower other) :
    IsLower (text ++ other) := by
  intro c listed
  rw [String.toList_append] at listed
  exact (List.mem_append.1 listed).elim (lower c) (other_lower c)

end ScriptBridge.Text
