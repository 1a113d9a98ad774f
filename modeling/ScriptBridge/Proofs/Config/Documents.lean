import Mathlib.Algebra.Group.Int.Defs
import Mathlib.Algebra.Group.Nat.Defs
import ScriptBridge.Config.Toml
import ScriptBridge.Proofs.Json.Numerals
/-!
Documents of settings that are written line by line. Strings are read back character by character, whole
numbers digit by digit; and lines of the form in which settings are written are read as these settings, one
after the other. Whatever is read as a whole number has 64 bits with sign. What is relied on in a writer of
documents is stated apart from any, and the writer of one setting a line is shown to keep to it.
-/

namespace ScriptBridge.Config

namespace Scalar

/-! ### Strings -/

theorem charOf?_toNat (c : Char) : charOf? c.toNat = some c := by
  have valid : c.toNat.isValidChar := c.valid
  rw [charOf?, dif_pos valid]
  rfl

/-- The four digits of a character of 7 bits have its number as value. -/
theorem paddedHexDigits_ascii :
    ∀ n < 128, Text.paddedHexDigits 4 n = ['0', '0', Nat.digitChar (n / 16), Nat.digitChar (n % 16)]
      ∧ hexNumber? ['0', '0', Nat.digitChar (n / 16), Nat.digitChar (n % 16)] = some n := by
  decide

/-- What is not plain has 7 bits. -/
theorem lt_of_not_isPlain {c : Char} (control : ¬ isPlain c = true) : c.toNat < 128 := by
  simp only [isPlain, Bool.or_eq_true, decide_eq_true_eq, Bool.and_eq_true, not_or, not_and] at control
  by_cases printed : 32 ≤ c.toNat
  · have last := control.2 printed
    omega
  · omega

/-- What is written for a character is read as it, whatever stands behind it. -/
theorem readBasic_writeChar (c : Char) (rest : List Char) :
    readBasic (writeChar c ++ rest) = (readBasic rest).map (putFront c) := by
  unfold writeChar
  split
  · next marked =>
      rw [Bool.or_eq_true, decide_eq_true_eq, decide_eq_true_eq] at marked
      rcases marked with rfl | rfl <;> cases behind : readBasic rest <;>
        simp [readBasic, escaped?, behind]
  · next unmarked =>
      rw [Bool.or_eq_true, decide_eq_true_eq, decide_eq_true_eq, not_or] at unmarked
      split
      · next plain => simp [readBasic, unmarked, plain]
      · next control =>
          obtain ⟨written, digits⟩ := paddedHexDigits_ascii c.toNat (lt_of_not_isPlain control)
          rw [written]
          cases behind : readBasic rest with
          | none => simp [readBasic, digits, behind]
          | some read => simp [readBasic, digits, behind, charOf?_toNat]

/-- A written string is read up to its closing quote. -/
theorem readBasic_written (text rest : List Char) :
    readBasic (text.flatMap writeChar ++ '"' :: rest) = some (text, rest) := by
  induction text with
  | nil => rfl
  | cons c text ih =>
      rw [List.flatMap_cons, List.append_assoc, readBasic_writeChar, ih]
      rfl

/-! ### Whole numbers -/

theorem isDigit_of_mem {n : Nat} {c : Char} (mem : c ∈ Nat.toDigits 10 n) : c.isDigit = true :=
  Nat.isDigit_of_mem_toDigits (by decide) (by decide) mem

theorem readDigits_written {digits : List Char} (nonempty : digits ≠ [])
    (all : ∀ c ∈ digits, c.isDigit = true) (rest : List Char) :
    readDigits Char.isDigit (digits ++ '\n' :: rest) = some (digits, '\n' :: rest) := by
  induction digits with
  | nil => exact absurd rfl nonempty
  | cons c digits ih =>
      obtain ⟨digit, others⟩ := List.forall_mem_cons.1 all
      cases digits with
      | nil => simp [readDigits, digit]
      | cons d digits =>
          have next := ih (List.cons_ne_nil d digits) others
          have digit' : d.isDigit = true := others d List.mem_cons_self
          have joined : d ≠ '_' := by
            rintro rfl
            cases digit'
          simp only [List.cons_append] at next ⊢
          simp [readDigits, digit, digit', joined, next, putFront]

/-- Digits stand for what they are worth in base ten. -/
theorem foldl_hexValue? {digits : List Char} (all : ∀ c ∈ digits, c.isDigit = true) (start : Nat) :
    digits.foldl (fun n c => n * 10 + (Text.hexValue? c).getD 0) start
      = Nat.ofDigitChars 10 digits start := by
  induction digits generalizing start with
  | nil => rfl
  | cons c digits ih =>
      obtain ⟨digit, others⟩ := List.forall_mem_cons.1 all
      have value : Text.hexValue? c = some (c.toNat - '0'.toNat) := if_pos digit
      rw [List.foldl_cons, value, Option.getD_some, ih others, Nat.ofDigitChars_cons, Nat.mul_comm]

/-- What is written for a number in base ten is read as it. -/
theorem readDecimal_toDigits (n : Nat) (rest : List Char) :
    readDecimal (Nat.toDigits 10 n ++ '\n' :: rest) = some (n, '\n' :: rest) := by
  rcases Nat.eq_zero_or_pos n with rfl | positive
  · rfl
  have noZero := Json.head?_toDigits_ne_zero n positive
  have nonempty : Nat.toDigits 10 n ≠ [] := Nat.toDigits_ne_nil
  have read := readDigits_written nonempty (fun _ => isDigit_of_mem) rest
  have value : numberOf 10 (Nat.toDigits 10 n) = n :=
    (foldl_hexValue? (fun _ => isDigit_of_mem) 0).trans
      (Nat.ofDigitChars_toDigits (by decide) (by decide))
  unfold readDecimal
  split
  · next cs front =>
      cases written : Nat.toDigits 10 n with
      | nil => exact absurd written Nat.toDigits_ne_nil
      | cons c digits =>
          rw [written, List.cons_append] at front
          cases front
          exact absurd (by rw [written]; rfl) noZero
  · rw [read, Option.map_some]
    show some (numberOf 10 (Nat.toDigits 10 n), '\n' :: rest) = _
    rw [value]

/-! ### Spellings -/

/-- What is written for a value: it does not begin with a space, and at the end of a line it is read as the
value. -/
structure Spells (written : List Char) (value : Scalar) : Prop where
  begins : ∃ c others, written = c :: others ∧ isSpace c = false
  reads : ∀ rest, read (written ++ '\n' :: rest) = some (value, '\n' :: rest)

theorem Spells.skipSpace_append {written : List Char} {value : Scalar} (spells : Spells written value)
    (rest : List Char) : skipSpace (written ++ rest) = written ++ rest := by
  obtain ⟨c, others, rfl, fresh⟩ := spells.begins
  exact List.dropWhile_cons_of_neg (by simp [fresh])

theorem spells_boolean (b : Bool) : Spells (toString b).toList (.boolean b) := by
  cases b with
  | false => exact ⟨⟨'f', "alse".toList, rfl, rfl⟩, fun rest => rfl⟩
  | true => exact ⟨⟨'t', "rue".toList, rfl, rfl⟩, fun rest => rfl⟩

/-- Only three quotes in a row begin a string of several lines. -/
theorem read_basic {cs : List Char} (single : ¬ ['"', '"'] <+: cs) :
    read ('"' :: cs) = (readBasic cs).map ofText := by
  unfold read
  split
  · next rest same =>
      cases same
      exact absurd ⟨rest, rfl⟩ single
  · next same => cases same
  · next same => cases same; rfl
  · next same => cases same
  · next same => cases same
  · next same => cases same
  · next basic _ _ _ => exact (basic cs rfl).elim

/-- What is written of a text, with the quote that closes it, does not begin with two quotes. -/
theorem not_isPrefix_written (text rest : List Char) :
    ¬ ['"', '"'] <+: text.flatMap writeChar ++ '"' :: '\n' :: rest := by
  cases text with
  | nil => simp
  | cons c text =>
      rw [List.flatMap_cons, List.append_assoc]
      unfold writeChar
      split
      · simp
      · next unmarked =>
          rw [Bool.or_eq_true, decide_eq_true_eq, decide_eq_true_eq, not_or] at unmarked
          split
          · simp [Ne.symm unmarked.1]
          · simp

/-- A string is read back, whatever characters it has. -/
theorem spells_text (text : String) : Spells (writeText text).toList (.text text) := by
  rw [writeText, String.toList_ofList]
  refine ⟨⟨'"', _, rfl, rfl⟩, fun rest => ?_⟩
  have behind : '"' :: text.toList.flatMap writeChar ++ ['"'] ++ '\n' :: rest
      = '"' :: (text.toList.flatMap writeChar ++ '"' :: '\n' :: rest) := by simp
  rw [behind, read_basic (not_isPrefix_written _ _), readBasic_written, Option.map_some, ofText,
    String.ofList_toList]

/-- What does not begin as a string or as a truth value does is read as a whole number. -/
theorem read_integer {c : Char} (unquoted : c ≠ '"' ∧ c ≠ '\'') (noLetter : c ≠ 't' ∧ c ≠ 'f')
    (cs : List Char) : read (c :: cs) = readInteger (c :: cs) := by
  unfold read
  split
  · next same => cases same; exact absurd rfl unquoted.1
  · next same => cases same; exact absurd rfl unquoted.2
  · next same => cases same; exact absurd rfl unquoted.1
  · next same => cases same; exact absurd rfl unquoted.2
  · next same => cases same; exact absurd rfl noLetter.1
  · next same => cases same; exact absurd rfl noLetter.2
  · rfl

theorem inInt64_iff {n : Int} :
    Int64.minValue.toInt ≤ n ∧ n ≤ Int64.maxValue.toInt ↔ -2 ^ 63 ≤ n ∧ n < 2 ^ 63 := by
  have least : Int64.minValue.toInt = -2 ^ 63 := by decide
  have greatest : Int64.maxValue.toInt = 2 ^ 63 - 1 := by decide
  omega

/-- Where neither a sign nor the mark of another base stands in front, a whole number is one in base ten. -/
theorem readInteger_digit {c : Char} {cs rest : List Char} {n : Nat} (digit : c.isDigit = true)
    (unmarked : ∀ mark ∈ cs.head?, mark ≠ 'x' ∧ mark ≠ 'o' ∧ mark ≠ 'b')
    (decimal : readDecimal (c :: cs) = some (n, rest)) (fits : n < 2 ^ 63) :
    readInteger (c :: cs) = some (.integer n, rest) := by
  have range := inInt64_iff.2 (show -2 ^ 63 ≤ (n : Int) ∧ (n : Int) < 2 ^ 63 by omega)
  unfold readInteger
  split
  · next same => cases same; exact absurd rfl (unmarked 'x' rfl).1
  · next same => cases same; exact absurd rfl (unmarked 'o' rfl).2.1
  · next same => cases same; exact absurd rfl (unmarked 'b' rfl).2.2
  · next same => cases same; cases digit
  · next same => cases same; cases digit
  · rw [decimal]
    exact if_pos range

/-- The digits of a number of 63 bits spell it. -/
theorem spells_toDigits {n : Nat} (fits : n < 2 ^ 63) : Spells (Nat.toDigits 10 n) (.integer n) := by
  have all : ∀ c ∈ Nat.toDigits 10 n, c.isDigit = true := fun _ => isDigit_of_mem
  have decimal := readDecimal_toDigits n
  cases digits : Nat.toDigits 10 n with
  | nil => exact absurd digits Nat.toDigits_ne_nil
  | cons c others =>
      rw [digits] at all decimal
      obtain ⟨digit, rest_digits⟩ := List.forall_mem_cons.1 all
      have apart {mark : Char} (other : mark.isDigit = false) : c ≠ mark := by
        rintro rfl
        exact absurd (digit.symm.trans other) (by decide)
      refine ⟨⟨c, others, rfl, by simp [isSpace, apart]⟩, fun rest => ?_⟩
      rw [List.cons_append, read_integer ⟨apart rfl, apart rfl⟩ ⟨apart rfl, apart rfl⟩]
      refine readInteger_digit digit ?_ (decimal rest) fits
      intro mark first
      have digit_or_end : mark.isDigit = true ∨ mark = '\n' := by
        cases others with
        | nil => exact .inr (Option.some.inj first).symm
        | cons d others => exact .inl (Option.some.inj first ▸ rest_digits d List.mem_cons_self)
      rcases digit_or_end with digit | rfl
      · refine ⟨?_, ?_, ?_⟩ <;> rintro rfl <;> cases digit
      · decide

/-- Behind a minus sign, the digits of a number spell the negative one. -/
theorem spells_negative {n : Nat} (fits : n ≤ 2 ^ 63) :
    Spells ('-' :: Nat.toDigits 10 n) (.integer (-n)) := by
  have range := inInt64_iff.2 (show -2 ^ 63 ≤ -(n : Int) ∧ -(n : Int) < 2 ^ 63 by omega)
  refine ⟨⟨'-', _, rfl, rfl⟩, fun rest => ?_⟩
  rw [List.cons_append, read_integer (by decide) (by decide)]
  simp only [readInteger, readDecimal_toDigits, Option.map_some]
  exact if_pos range

/-- A whole number of 64 bits with sign is read back. -/
theorem spells_integer {n : Int} (inRange : -2 ^ 63 ≤ n ∧ n < 2 ^ 63) :
    Spells (toString n).toList (.integer n) := by
  cases n with
  | ofNat n =>
      have written : (toString (Int.ofNat n)).toList = Nat.toDigits 10 n := Nat.toList_repr
      rw [written]
      exact spells_toDigits (Int.ofNat_lt.1 inRange.2)
  | negSucc n =>
      have written : (toString (Int.negSucc n)).toList = '-' :: Nat.toDigits 10 (n + 1) := by
        rw [Int.toString_eq_repr, Int.repr, String.toList_append, Nat.toList_repr]
        rfl
      rw [written]
      exact spells_negative (by omega)

/-! ### The range of whole numbers -/

/-- Whole numbers have 64 bits with sign. -/
def InRange : Scalar → Prop
  | .integer value => -2 ^ 63 ≤ value ∧ value < 2 ^ 63
  | .boolean _ => True
  | .text _ => True

/-- A value whose number is in range is written as something that spells it. -/
theorem exists_spells_of_inRange {value : Scalar} (inRange : value.InRange) :
    ∃ written, value.write = .ok written ∧ Spells written.toList value := by
  cases value with
  | integer n => exact ⟨toString n, if_pos (inInt64_iff.2 inRange), spells_integer inRange⟩
  | boolean b => exact ⟨toString b, rfl, spells_boolean b⟩
  | text content => exact ⟨writeText content, rfl, spells_text content⟩

/-- Only numbers out of range are not written. -/
theorem write_eq_ok_or_error (value : Scalar) :
    (∃ written, value.write = .ok written) ∨ value.write = .error (.outOfRange "u64") := by
  cases value with
  | integer n =>
      rw [write]
      split
      · exact .inl ⟨_, rfl⟩
      · exact .inr rfl
  | boolean b => exact .inl ⟨_, rfl⟩
  | text content => exact .inl ⟨_, rfl⟩

/-- A word of 64 bits without sign is out of range if its first bit is set. -/
theorem write_word {word : UInt64} (long : 2 ^ 63 ≤ word.toNat) :
    write (.integer word.toNat) = .error (.outOfRange "u64") := by
  refine if_neg fun inRange => ?_
  have short := (inInt64_iff.1 inRange).2
  omega

/-- Whatever number stands in a text, the check of its range is passed only by those in range. -/
theorem inRange_of_checked {number? : Option (Scalar × List Char)} {value : Scalar} {rest : List Char}
    (checked : (number?.bind fun (number, behind) =>
      match number with
      | .integer n =>
        if Int64.minValue.toInt ≤ n ∧ n ≤ Int64.maxValue.toInt then some (number, behind) else none
      | _ => some (number, behind)) = some (value, rest)) : value.InRange := by
  obtain ⟨⟨number, behind⟩, -, passed⟩ := Option.bind_eq_some_iff.1 checked
  cases number with
  | integer n =>
      simp only at passed
      split at passed
      · next range =>
          cases passed
          exact inInt64_iff.1 range
      · cases passed
  | boolean b =>
      cases passed
      trivial
  | text content =>
      cases passed
      trivial

theorem inRange_readInteger {cs rest : List Char} {value : Scalar}
    (reads : readInteger cs = some (value, rest)) : value.InRange := by
  unfold readInteger at reads
  split at reads <;> exact inRange_of_checked reads

/-- Nothing is read as a whole number that has not 64 bits. -/
theorem inRange_read {cs rest : List Char} {value : Scalar} (reads : read cs = some (value, rest)) :
    value.InRange := by
  have ofText_inRange {from? : Option (List Char × List Char)}
      (made : from?.map ofText = some (value, rest)) : value.InRange := by
    obtain ⟨piece, -, same⟩ := Option.map_eq_some_iff.1 made
    cases same
    trivial
  unfold read at reads
  split at reads
  · exact ofText_inRange reads
  · exact ofText_inRange reads
  · exact ofText_inRange reads
  · exact ofText_inRange reads
  · cases reads
    trivial
  · cases reads
    trivial
  · exact inRange_readInteger reads

end Scalar

namespace Document

open Scalar

theorem inRange_readSetting {cs rest : List Char} {setting : String × Scalar}
    (reads : readSetting cs = some (setting, rest)) : setting.2.InRange := by
  obtain ⟨⟨key, behind⟩, -, reads⟩ := Option.bind_eq_some_iff.1 reads
  simp only at reads
  split at reads
  · obtain ⟨⟨value, after⟩, value_read, reads⟩ := Option.bind_eq_some_iff.1 reads
    obtain ⟨left, -, made⟩ := Option.bind_eq_some_iff.1 reads
    cases made
    exact inRange_read value_read
  · cases reads

theorem inRange_readLines {fuel : Nat} {cs : List Char} {document : Document}
    (reads : readLines fuel cs = some document) : ∀ setting ∈ document, setting.2.InRange := by
  induction fuel generalizing cs document with
  | zero =>
      cases cs with
      | nil => cases reads; simp
      | cons c cs => cases reads
  | succ fuel ih =>
      cases cs with
      | nil => cases reads; simp
      | cons c cs =>
          rw [readLines] at reads
          split at reads
          · exact ih reads
          · obtain ⟨⟨setting, rest⟩, here, reads⟩ := Option.bind_eq_some_iff.1 reads
            obtain ⟨others, behind, made⟩ := Option.bind_eq_some_iff.1 reads
            cases made
            exact List.forall_mem_cons.2 ⟨inRange_readSetting here, ih behind⟩
          · exact List.cons_ne_nil c cs

/-- Every whole number in a document has 64 bits with sign. -/
theorem inRange_read? {source : String} {document : Document} (reads : read? source = some document) :
    ∀ setting ∈ document, setting.2.InRange :=
  inRange_readLines reads

/-! ### Lines -/

/-- What may stand in names ends nothing and opens nothing. -/
theorem ne_of_isBare {c : Char} (bare : isBare c = true) :
    isSpace c = false ∧ c ≠ '"' ∧ c ≠ '\'' ∧ c ≠ '#' ∧ c ≠ '\n' ∧ c ≠ '\r' ∧ c ≠ '\uFEFF' := by
  have apart : c ≠ ' ' ∧ c ≠ '\t' := by
    constructor <;> rintro rfl <;> cases bare
  refine ⟨by simp [isSpace, apart], ?_, ?_, ?_, ?_, ?_, ?_⟩ <;> rintro rfl <;> cases bare

/-- A line that sets a setting. Its name is plain. -/
structure Line where
  name : String
  value : Scalar
  written : List Char
  named : name.toList ≠ []
  bare : name.toList.all isBare = true
  spells : Spells written value

namespace Line

/-- The text of a line. -/
def text (line : Line) : List Char :=
  line.name.toList ++ ' ' :: '=' :: ' ' :: (line.written ++ ['\n'])

/-- What a line sets. -/
def setting (line : Line) : String × Scalar :=
  (line.name, line.value)

theorem isBare_of_mem {line : Line} {c : Char} (mem : c ∈ line.name.toList) : isBare c = true :=
  List.all_eq_true.1 line.bare c mem

variable (line : Line) (rest : List Char)

theorem text_append : line.text ++ rest
    = line.name.toList ++ ' ' :: ('=' :: ' ' :: (line.written ++ '\n' :: rest)) := by
  simp [text]

theorem begins : ∃ c others, line.text ++ rest = c :: others ∧ isBare c = true := by
  cases letters : line.name.toList with
  | nil => exact absurd letters line.named
  | cons c others =>
      have bare : isBare c = true := isBare_of_mem (by rw [letters]; exact List.mem_cons_self)
      refine ⟨c, others ++ ' ' :: ('=' :: ' ' :: (line.written ++ '\n' :: rest)), ?_, bare⟩
      rw [text_append, letters, List.cons_append]

/-- A line is not blank. -/
theorem endLine?_text : endLine? (line.text ++ rest) = none := by
  obtain ⟨c, others, begins, bare⟩ := line.begins rest
  obtain ⟨fresh, -, -, noMark, noEnd, noReturn, -⟩ := ne_of_isBare bare
  have kept : skipSpace (c :: others) = c :: others := List.dropWhile_cons_of_neg (by simp [fresh])
  rw [begins, endLine?, kept]
  simp [skipComment, noMark, noEnd, noReturn]

theorem readKey_text : readKey (line.text ++ rest)
    = some (line.name, ' ' :: ('=' :: ' ' :: (line.written ++ '\n' :: rest))) := by
  obtain ⟨c, others, begins, bare⟩ := line.begins rest
  obtain ⟨-, noDouble, noSingle, -⟩ := ne_of_isBare bare
  have stops : isBare ' ' = false := by decide
  have taken : (line.text ++ rest).takeWhile isBare = line.name.toList := by
    rw [text_append, Json.takeWhile_append_stop stops]
    simpa using @List.takeWhile_append_of_pos _ isBare line.name.toList [] fun _ => isBare_of_mem
  have dropped : (line.text ++ rest).dropWhile isBare
      = ' ' :: ('=' :: ' ' :: (line.written ++ '\n' :: rest)) := by
    rw [text_append, Json.dropWhile_append_stop stops]
    simpa using @List.dropWhile_append_of_pos _ isBare line.name.toList [] fun _ => isBare_of_mem
  unfold readKey
  split
  · next same => rw [begins] at same; cases same; exact absurd rfl noDouble
  · next same => rw [begins] at same; cases same; exact absurd rfl noSingle
  · simp [taken, dropped, line.named]

/-- A line is read as what it sets. -/
theorem readSetting_text : readSetting (line.text ++ rest) = some (line.setting, rest) := by
  obtain ⟨c, others, begins, bare⟩ := line.begins rest
  have kept : skipSpace (line.text ++ rest) = line.text ++ rest := by
    rw [begins]
    exact List.dropWhile_cons_of_neg (by simp [(ne_of_isBare bare).1])
  have spaced : skipSpace (' ' :: (line.written ++ '\n' :: rest)) = line.written ++ '\n' :: rest :=
    line.spells.skipSpace_append _
  have ends : endLine? ('\n' :: rest) = some rest := rfl
  rw [readSetting, kept, readKey_text]
  show (do
    let (value, rest) ← Scalar.read (skipSpace (' ' :: (line.written ++ '\n' :: rest)))
    let rest ← endLine? rest
    pure ((line.name, value), rest)) = _
  rw [spaced, line.spells.reads]
  simp [ends, setting]

end Line

/-- Lines are read one after the other. -/
theorem readLines_lines {fuel : Nat} {lines : List Line} (enough : lines.length ≤ fuel) :
    readLines fuel (lines.flatMap Line.text) = some (lines.map Line.setting) := by
  induction lines generalizing fuel with
  | nil => cases fuel <;> rfl
  | cons line lines ih =>
      cases fuel with
      | zero => exact absurd enough (Nat.not_succ_le_zero _)
      | succ fuel =>
          rw [List.flatMap_cons, readLines, line.endLine?_text]
          · simp [line.readSetting_text, ih (Nat.le_of_succ_le_succ enough)]
          · obtain ⟨c, others, begins, -⟩ := line.begins (lines.flatMap Line.text)
            rw [begins]
            exact List.cons_ne_nil c others

/-- There is fuel enough, since no line is empty. -/
theorem length_le_flatMap_text (lines : List Line) :
    lines.length ≤ (lines.flatMap Line.text).length := by
  induction lines with
  | nil => exact Nat.le_refl 0
  | cons line lines ih =>
      rw [List.flatMap_cons, List.length_append, List.length_cons, Line.text]
      simp only [List.length_append, List.length_cons]
      omega

/-- A document of lines is read as what these set. -/
theorem read?_lines (lines : List Line) :
    read? (String.ofList (lines.flatMap Line.text)) = some (lines.map Line.setting) := by
  have unmarked : (lines.flatMap Line.text).head? ≠ some '\uFEFF' := by
    cases lines with
    | nil => simp
    | cons line lines =>
        obtain ⟨c, others, begins, bare⟩ := line.begins (lines.flatMap Line.text)
        rw [List.flatMap_cons, begins, List.head?_cons]
        exact fun same => (ne_of_isBare bare).2.2.2.2.2.2 (Option.some.inj same)
  simp only [read?, String.toList_ofList, if_neg unmarked]
  exact readLines_lines (length_le_flatMap_text lines)

/-! ### Writing -/

/-- The names are plain, and none of them is set twice. -/
structure Plain (document : Document) : Prop where
  bare : ∀ setting ∈ document, setting.1.toList ≠ [] ∧ setting.1.toList.all isBare = true
  once : (document.map (·.1)).Nodup

/-- What is relied on in a way to write documents. Strings and truth values are read back whatever they are,
and so are whole numbers of 64 bits with sign; a word beyond them is an error of its own. -/
structure Writer.Lawful (write : Writer) : Prop where
  reads : ∀ {document : Document}, document.Plain → (∀ setting ∈ document, setting.2.InRange) →
    ∃ text, write document = .ok text ∧ read? text = some document
  refuses : ∀ {document : Document} {name : String} {word : UInt64},
    (name, .integer word.toNat) ∈ document → 2 ^ 63 ≤ word.toNat →
      write document = .error (.outOfRange "u64")

/-- Settings with plain names are written as lines that set them. -/
theorem exists_lines_of_inRange {document : Document}
    (bare : ∀ setting ∈ document, setting.1.toList ≠ [] ∧ setting.1.toList.all isBare = true)
    (inRange : ∀ setting ∈ document, setting.2.InRange) :
    ∃ lines : List Line, lines.map Line.setting = document
      ∧ write document = .ok (String.ofList (lines.flatMap Line.text)) := by
  induction document with
  | nil => exact ⟨[], rfl, rfl⟩
  | cons setting document ih =>
      obtain ⟨name, value⟩ := setting
      obtain ⟨⟨named, plain⟩, bare⟩ := List.forall_mem_cons.1 bare
      obtain ⟨here, inRange⟩ := List.forall_mem_cons.1 inRange
      obtain ⟨written, writes, spells⟩ := exists_spells_of_inRange here
      obtain ⟨lines, sets, others⟩ := ih bare inRange
      let line : Line := ⟨name, value, written.toList, named, plain, spells⟩
      refine ⟨line :: lines, congrArg ((name, value) :: ·) sets, ?_⟩
      have joined : name ++ " = " ++ written ++ "\n" ++ String.ofList (lines.flatMap Line.text)
          = String.ofList ((line :: lines).flatMap Line.text) := by
        apply String.toList_injective
        simp [line, Line.text]
      rw [write, writes, others, ← joined]
      rfl

/-- A document with a value that is not written is not written. -/
theorem write_eq_error_of_mem {document : Document} {setting : String × Scalar}
    (listed : setting ∈ document) (refused : setting.2.write = .error (.outOfRange "u64")) :
    write document = .error (.outOfRange "u64") := by
  induction document with
  | nil => cases listed
  | cons first document ih =>
      obtain ⟨name, value⟩ := first
      rw [write]
      rcases List.mem_cons.1 listed with rfl | later
      · rw [refused]
        rfl
      · rw [ih later]
        rcases value.write_eq_ok_or_error with ⟨written, writes⟩ | fails
        · rw [writes]
          rfl
        · rw [fails]
          rfl

/-- Writing one setting a line is such a way. -/
theorem lawful_write : Writer.Lawful write where
  reads plain inRange := by
    obtain ⟨lines, rfl, writes⟩ := exists_lines_of_inRange plain.bare inRange
    exact ⟨_, writes, read?_lines lines⟩
  refuses listed long := write_eq_error_of_mem listed (write_word long)

end Document

end ScriptBridge.Config
