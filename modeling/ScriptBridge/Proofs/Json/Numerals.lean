import ScriptBridge.FieldBag.Json
/-!
Numbers survive JSON. A number is read in stages: its sign, its whole digits, its decimal places and its
exponent. Each stage takes what it can, so a number that is the whole of a text is read just so in front
of any character that cannot be part of a number. Whole numbers of 64 bits are read back as themselves.
-/

namespace ScriptBridge.Json

/-- What cannot be part of a number, and so ends it. -/
structure EndsNumeral (c : Char) : Prop where
  noDigit : c.isDigit = false
  noPoint : c ≠ '.'
  noMark : ¬ (c = 'e' ∨ c = 'E')

theorem endsNumeral_brace : EndsNumeral '\x7d' :=
  ⟨by decide, by decide, by decide⟩

/-! ### A number in front of other characters -/

section

variable {c : Char} {others : List Char}

theorem takeWhile_append_stop {p : Char → Bool} (stops : p c = false) (cs : List Char) :
    (cs ++ c :: others).takeWhile p = cs.takeWhile p := by
  induction cs with
  | nil => simp [stops]
  | cons d cs ih => cases taken : p d <;> simp [taken, ih]

theorem dropWhile_append_stop {p : Char → Bool} (stops : p c = false) (cs : List Char) :
    (cs ++ c :: others).dropWhile p = cs.dropWhile p ++ c :: others := by
  induction cs with
  | nil => simp [stops]
  | cons d cs ih => cases taken : p d <;> simp [taken, ih]

theorem readDigits_append (ends : EndsNumeral c) {cs digits after : List Char}
    (read : readDigits cs = some (digits, after)) :
    readDigits (cs ++ c :: others) = some (digits, after ++ c :: others) := by
  unfold readDigits at read ⊢
  rw [takeWhile_append_stop ends.noDigit, dropWhile_append_stop ends.noDigit]
  split at read
  · cases read
  · next nonempty =>
      cases read
      exact if_neg nonempty

theorem readSign_append {cs : List Char} (nonempty : cs ≠ []) (tail : List Char) :
    readSign (cs ++ tail) = ((readSign cs).1, (readSign cs).2 ++ tail) := by
  cases cs with
  | nil => exact absurd rfl nonempty
  | cons d cs =>
      unfold readSign
      by_cases minus : d = '-'
      · subst minus
        rfl
      · simp [minus]

theorem readWhole_append (ends : EndsNumeral c) {cs whole after : List Char}
    (read : readWhole cs = some (whole, after)) :
    readWhole (cs ++ c :: others) = some (whole, after ++ c :: others) := by
  cases cs with
  | nil => cases read
  | cons d cs =>
      by_cases zero : d = '0'
      · subst zero
        simp only [readWhole, List.cons_append, takeWhile_append_stop ends.noDigit] at read ⊢
        split at read <;> simp_all
      · simp [readWhole, zero] at read ⊢
        exact readDigits_append ends read

theorem readPlaces_append (ends : EndsNumeral c) {cs places after : List Char}
    (read : readPlaces cs = some (places, after)) :
    readPlaces (cs ++ c :: others) = some (places, after ++ c :: others) := by
  cases cs with
  | nil => simp_all [readPlaces, ends.noPoint]
  | cons d cs =>
      by_cases point : d = '.'
      · subst point
        exact readDigits_append ends read
      · simp [readPlaces, point] at read ⊢
        obtain ⟨rfl, rfl⟩ := read
        simp

theorem readExponentSign_append {cs : List Char} (nonempty : cs ≠ []) (tail : List Char) :
    readExponentSign (cs ++ tail) = ((readExponentSign cs).1, (readExponentSign cs).2 ++ tail) := by
  cases cs with
  | nil => exact absurd rfl nonempty
  | cons d cs =>
      unfold readExponentSign
      by_cases minus : d = '-'
      · subst minus
        rfl
      · by_cases plus : d = '+'
        · subst plus
          rfl
        · simp [minus, plus]

theorem readExponent_append (ends : EndsNumeral c) {cs after : List Char}
    {exponent : Option (Bool × List Char)} (read : readExponent cs = some (exponent, after)) :
    readExponent (cs ++ c :: others) = some (exponent, after ++ c :: others) := by
  cases cs with
  | nil =>
      have := ends.noMark
      simp_all [readExponent]
  | cons mark cs =>
      by_cases marked : mark = 'e' ∨ mark = 'E'
      · simp only [readExponent, List.cons_append, Bool.or_eq_true, decide_eq_true_eq, marked,
          if_true, Option.map_eq_some_iff] at read ⊢
        obtain ⟨⟨digits, rest⟩, digitsRead, same⟩ := read
        have nonempty : cs ≠ [] := by
          intro empty
          subst empty
          cases digitsRead
        rw [readExponentSign_append nonempty]
        cases same
        exact ⟨_, readDigits_append ends digitsRead, rfl⟩
      · simp [readExponent, marked] at read
        obtain ⟨rfl, rfl⟩ := read
        simp [readExponent, marked]

/-- A number begins with a digit or a minus sign. -/
theorem exists_of_readNumeral {cs rest : List Char} {numeral : Numeral}
    (read : readNumeral cs = some (numeral, rest)) :
    ∃ c others, cs = c :: others ∧ (c = '-' ∨ c.isDigit = true) := by
  cases cs with
  | nil => cases read
  | cons c others =>
      refine ⟨c, others, rfl, Decidable.byContradiction fun neither => ?_⟩
      rw [not_or, Bool.not_eq_true] at neither
      have noZero : c ≠ '0' := by
        intro zero
        subst zero
        cases neither.2
      simp [readNumeral, readSign, neither.1, readWhole, noZero, readDigits, neither.2] at read

theorem not_isSpace_of_isDigit {c : Char} (digit : c.isDigit = true) : isSpace c = false := by
  have apart : c ≠ ' ' ∧ c ≠ '\n' ∧ c ≠ '\t' ∧ c ≠ '\r' := by
    refine ⟨?_, ?_, ?_, ?_⟩ <;> (intro same; subst same; cases digit)
  simp [isSpace, apart]

/-- A number that is all of a text is read in front of whatever ends it. -/
theorem readNumeral_append (ends : EndsNumeral c) {cs : List Char} {numeral : Numeral}
    (read : readNumeral cs = some (numeral, [])) :
    readNumeral (cs ++ c :: others) = some (numeral, c :: others) := by
  simp only [readNumeral, Option.bind_eq_bind, Option.bind_eq_some_iff, Option.pure_def,
    Option.some.injEq, Prod.exists] at read ⊢
  obtain ⟨whole, afterWhole, wholeRead, places, afterPlaces, placesRead, exponent, after,
    exponentRead, same⟩ := read
  have nonempty : cs ≠ [] := by
    intro empty
    subst empty
    cases wholeRead
  rw [readSign_append nonempty]
  cases same
  exact ⟨_, _, readWhole_append ends wholeRead, _, _, readPlaces_append ends placesRead, _, _,
    readExponent_append ends exponentRead, rfl⟩

end

/-! ### Whole numbers -/

/-- The digits of a positive number do not begin with a zero. -/
theorem head?_toDigits_ne_zero (n : Nat) (positive : 0 < n) :
    (Nat.toDigits 10 n).head? ≠ some '0' := by
  induction n using Nat.strongRecOn with
  | ind n ih =>
      by_cases small : n < 10
      · have digits : ∀ d < 10, 0 < d → (Nat.toDigits 10 d).head? ≠ some '0' := by decide
        exact digits n small positive
      · rw [Nat.toDigits_of_base_le (by decide) (Nat.le_of_not_lt small), List.head?_append,
          List.head?_eq_some_head Nat.toDigits_ne_nil, Option.some_or,
          ← List.head?_eq_some_head Nat.toDigits_ne_nil]
        exact ih (n / 10) (by omega) (by omega)

/-- Digits are read to their end. -/
theorem readDigits_eq {cs : List Char} (nonempty : cs ≠ []) (digits : ∀ c ∈ cs, c.isDigit = true) :
    readDigits cs = some (cs, []) := by
  have taken : cs.takeWhile Char.isDigit = cs := by
    simpa using @List.takeWhile_append_of_pos _ Char.isDigit cs [] digits
  have dropped : cs.dropWhile Char.isDigit = [] := by
    simpa using @List.dropWhile_append_of_pos _ Char.isDigit cs [] digits
  simp [readDigits, taken, dropped, nonempty]

/-- The digits of a number are read as whole digits. -/
theorem readWhole_toDigits (n : Nat) :
    readWhole (Nat.toDigits 10 n) = some (Nat.toDigits 10 n, []) := by
  rcases Nat.eq_zero_or_pos n with rfl | positive
  · rfl
  · have noZero := head?_toDigits_ne_zero n positive
    have read : readDigits (Nat.toDigits 10 n) = some (Nat.toDigits 10 n, []) :=
      readDigits_eq Nat.toDigits_ne_nil fun c mem =>
        Nat.isDigit_of_mem_toDigits (by decide) (by decide) mem
    unfold readWhole
    split
    · next written => simp [written] at noZero
    · exact read

/-- The digits of a number are read as a number. -/
theorem readNumeral_toDigits (n : Nat) :
    readNumeral (Nat.toDigits 10 n) = some (⟨false, Nat.toDigits 10 n, [], none⟩, []) := by
  have sign : readSign (Nat.toDigits 10 n) = (false, Nat.toDigits 10 n) := by
    unfold readSign
    split
    · next written =>
        have digit : '-'.isDigit = true :=
          Nat.isDigit_of_mem_toDigits (by decide) (by decide) (written ▸ List.mem_cons_self)
        cases digit
    · rfl
  simp [readNumeral, sign, readWhole_toDigits, readPlaces, readExponent]

/-- So are they behind a minus sign. -/
theorem readNumeral_minus_toDigits (n : Nat) :
    readNumeral ('-' :: Nat.toDigits 10 n) = some (⟨true, Nat.toDigits 10 n, [], none⟩, []) := by
  simp [readNumeral, readSign, readWhole_toDigits, readPlaces, readExponent]

/-- More digits do not make a number smaller. -/
theorem le_ofDigitChars (digits : List Char) (start : Nat) :
    start ≤ Nat.ofDigitChars 10 digits start := by
  induction digits generalizing start with
  | nil => exact Nat.le_refl start
  | cons c digits ih =>
      rw [Nat.ofDigitChars_cons]
      have := ih (10 * start + (c.toNat - '0'.toNat))
      omega

/-- Digits whose value fits in 64 bits are all taken. -/
theorem appendDigits_eq (digits : List Char) (start : Nat)
    (fits : Nat.ofDigitChars 10 digits start < wordBound) :
    appendDigits start digits = (Nat.ofDigitChars 10 digits start, digits.length) := by
  induction digits generalizing start with
  | nil => rfl
  | cons c digits ih =>
      rw [Nat.ofDigitChars_cons] at fits ⊢
      have next := le_ofDigitChars digits (10 * start + (c.toNat - '0'.toNat))
      rw [appendDigits, if_neg (Nat.not_le.2 (Nat.lt_of_le_of_lt next fits)), ih _ fits]
      rfl

theorem appendDigits_toDigits {n : Nat} (fits : n < wordBound) :
    appendDigits 0 (Nat.toDigits 10 n) = (n, (Nat.toDigits 10 n).length) := by
  have value : Nat.ofDigitChars 10 (Nat.toDigits 10 n) 0 = n :=
    Nat.ofDigitChars_toDigits (by decide) (by decide)
  rw [appendDigits_eq _ _ (by rwa [value]), value]

/-- The number that a text writes. -/
def readNumber? (text : String) : Option Number :=
  match readNumeral text.toList with
  | some (numeral, []) => numeral.value?
  | _ => none

theorem readNumber?_natural {n : Nat} (fits : n < wordBound) :
    readNumber? (toString (n : Int)) = some (.natural n) := by
  have written : (toString (n : Int)).toList = Nat.toDigits 10 n := by
    exact Nat.toList_repr
  rw [readNumber?, written, readNumeral_toDigits]
  simp [Numeral.value?, appendDigits_toDigits fits]

theorem readNumber?_negative {n : Nat} (fits : n + 1 ≤ wordBound / 2) :
    readNumber? (toString (Int.negSucc n)) = some (.negative (Int.negSucc n)) := by
  have written : (toString (Int.negSucc n)).toList = '-' :: Nat.toDigits 10 (n + 1) := by
    show ("-" ++ (n + 1).repr).toList = '-' :: Nat.toDigits 10 (n + 1)
    simp
  have whole : n + 1 < wordBound := by omega
  rw [readNumber?, written, readNumeral_minus_toDigits]
  simp [Numeral.value?, appendDigits_toDigits whole, Nat.not_lt.2 fits]
  omega

/-- Whole numbers of 64 bits are read back as themselves. -/
theorem readNumber?_integer (value : Int64) :
    (readNumber? (toString value.toInt)).bind Number.toInteger? = some value := by
  have bound : wordBound = 2 ^ 64 := rfl
  have least := value.le_toInt
  have greatest := value.toInt_lt
  have same := Int64.ofInt_toInt value
  generalize value.toInt = number at least greatest same
  cases number with
  | ofNat n =>
      have half : n < wordBound / 2 := by
        simp only [Int.ofNat_eq_natCast] at greatest
        omega
      simp only [Int.ofNat_eq_natCast] at same ⊢
      rw [readNumber?_natural (by omega), Option.bind_some, Number.toInteger?, if_pos half, ← same]
      rfl
  | negSucc n =>
      rw [readNumber?_negative (by omega), Option.bind_some, Number.toInteger?, same]

end ScriptBridge.Json
