import ScriptBridge.FieldBag.Json
/-!
Strings survive JSON. What is written between the quotes of a string is read back one character at a
time: a letter stands for the character behind a backslash, or its number does, or the character stands
for itself. Whatever is behind the closing quote is left alone.
-/

namespace ScriptBridge.Json

/-- How one character may be written between quotes, and the piece that this is read as. -/
inductive Writes : Char → List Char → Piece → Prop where
  | letter {c letter : Char} (named : shortEscape? letter = some c) :
      Writes c ['\\', letter] (.plain c)
  | number {c a b d e : Char} (control : c.toNat < 32) (digits : hexValue4? a b d e = some c.toNat) :
      Writes c ['\\', 'u', a, b, d, e] (.unit c.toNat)
  | itself {c : Char} (printed : 32 ≤ c.toNat) (noQuote : c ≠ '"') (noEscape : c ≠ '\\') :
      Writes c [c] (.plain c)

/-- The four digits of a control character have its number as value. -/
theorem paddedHexDigits_control :
    ∀ n < 32, Text.paddedHexDigits 4 n = ['0', '0', Nat.digitChar (n / 16), Nat.digitChar (n % 16)]
      ∧ hexValue4? '0' '0' (Nat.digitChar (n / 16)) (Nat.digitChar (n % 16)) = some n := by
  decide

/-- Every character is written so that it is read as itself. -/
theorem writes_escapedChar (c : Char) : ∃ piece, Writes c (escapedChar c) piece := by
  unfold escapedChar
  iterate 7
    split
    · next same => exact ⟨_, .letter (by rw [same]; rfl)⟩
  split
  · next control =>
      obtain ⟨written, digits⟩ := paddedHexDigits_control c.toNat control
      rw [written]
      exact ⟨_, .number control digits⟩
  · next noQuote noEscape _ _ _ _ _ printed =>
      exact ⟨_, .itself (Nat.le_of_not_lt printed) noQuote noEscape⟩

/-- What is written for a character is read as one piece, whatever stands behind it. -/
theorem Writes.readPieces_append {c : Char} {written : List Char} {piece : Piece}
    (writes : Writes c written piece) (rest : List Char) :
    readPieces (written ++ rest)
      = (readPieces rest).map fun read => (piece :: read.1, read.2) := by
  cases writes with
  | @letter letter named =>
      -- the letter in front of a number names no character
      have notNumber : letter ≠ 'u' := by
        intro same
        rw [same] at named
        cases named
      cases behind : readPieces rest with
      | none => simp [readPieces, notNumber, named, behind]
      | some read => simp [readPieces, notNumber, named, behind]
  | number _ digits =>
      cases behind : readPieces rest with
      | none => simp [readPieces, digits, behind]
      | some read => simp [readPieces, digits, behind]
  | itself printed noQuote noEscape =>
      cases behind : readPieces rest with
      | none => simp [readPieces, noEscape, Nat.not_lt.2 printed, behind]
      | some read => simp [readPieces, noEscape, Nat.not_lt.2 printed, behind]

/-- A code unit below the halves of pairs is a character of its own. -/
theorem joinPieces_unit {value : Nat} (alone : value < 0xD800) (rest : List Piece) :
    joinPieces (.unit value :: rest) = (joinPieces rest).map (Char.ofNat value :: ·) := by
  have notHalf : ¬ 0xD800 ≤ value := Nat.not_le.2 alone
  have notLow : ¬ 0xDC00 ≤ value := by omega
  match rest with
  | [] => simp [joinPieces, notHalf]
  | .unit low :: rest => simp [joinPieces, notHalf, notLow]
  | .plain c :: rest => simp [joinPieces, notHalf]

/-- The piece of a character is joined to the others as that character. -/
theorem Writes.joinPieces_cons {c : Char} {written : List Char} {piece : Piece}
    (writes : Writes c written piece) (rest : List Piece) :
    joinPieces (piece :: rest) = (joinPieces rest).map (c :: ·) := by
  cases writes with
  | letter _ => rw [joinPieces]
  | number control _ => rw [joinPieces_unit (by omega), Char.ofNat_toNat]
  | itself _ _ _ => rw [joinPieces]

/-- A written text is read up to its closing quote, as pieces that join to it. -/
theorem readPieces_written (text rest : List Char) :
    ∃ pieces, readPieces (text.flatMap escapedChar ++ '"' :: rest) = some (pieces, rest)
      ∧ joinPieces pieces = some text := by
  induction text with
  | nil => exact ⟨[], by simp [readPieces], rfl⟩
  | cons c text ih =>
      obtain ⟨pieces, read, joined⟩ := ih
      obtain ⟨piece, writes⟩ := writes_escapedChar c
      refine ⟨piece :: pieces, ?_, ?_⟩
      · rw [List.flatMap_cons, List.append_assoc, writes.readPieces_append, read, Option.map_some]
      · rw [writes.joinPieces_cons, joined, Option.map_some]

/-- The characters of a text as a JSON string. -/
theorem toList_writeString (text : String) :
    (writeString text).toList = '"' :: (text.toList.flatMap escapedChar ++ ['"']) := by
  simp [writeString]

/-- A written string is read as its text. -/
theorem readDocument_writeString (fuel : Nat) (text : String) (rest : List Char) :
    readDocument (fuel + 1) ((writeString text).toList ++ rest) = some (.string (some text), rest) := by
  obtain ⟨pieces, read, joined⟩ := readPieces_written text.toList rest
  have written : (writeString text).toList ++ rest
      = '"' :: (text.toList.flatMap escapedChar ++ '"' :: rest) := by
    simp [toList_writeString]
  rw [written, readDocument]
  simp [skipSpace, isSpace, read, joined]

end ScriptBridge.Json
