import ScriptBridge.Builtins.Types
import ScriptBridge.Token.Basic
/-!
Strings between quotes, read back. The quotes in a string are doubled, so that the first one which is not
doubled closes it: what a scan finds in front of anything but one more quote is a single token that stands
for the string.
-/

namespace ScriptBridge.Token

/-- A character as it is written between quotes. -/
def doubled (c : Char) : List Char :=
  if c = '"' then ['"', '"'] else [c]

theorem toList_quoteText (text : String) :
    (Builtins.quoteText text).toList = '"' :: (text.toList.flatMap doubled ++ ['"']) := by
  rw [Builtins.quoteText, String.toList_ofList]
  rfl

/-- A string whose quotes are doubled is read back whole, up to the quote behind it. -/
theorem splitString_doubled (content : List Char) {rest : List Char}
    (closes : rest.head? ≠ some '"') :
    splitString (content.flatMap doubled ++ '"' :: rest)
      = ⟨content, content.flatMap doubled ++ ['"'], rest⟩ := by
  induction content with
  | nil =>
      cases rest with
      | nil => rfl
      | cons c rest =>
          have differs : c ≠ '"' := by simpa using closes
          simp [splitString, differs]
  | cons c content ih =>
      by_cases quote : c = '"'
      · subst quote
        simp [doubled, splitString, ih]
      · simp [doubled, quote, splitString, ih]

/-- The token is a string that stands for the text. -/
structure Quotes (token : Token) (text : String) : Prop where
  isQuoted : token.kind = .quoted
  standsFor : token.text = text

/-- The token is this word. -/
structure IsWord (token : Token) (word : String) : Prop where
  isWord : token.kind = .word
  spelled : token.text = word

variable {offset : Nat} {touchesWord : Bool} {rest : List Char}

/-- What a scan finds at a quoted text is a token that stands for the text. -/
theorem scan_quoteText (text : String) (closes : rest.head? ≠ some '"') :
    ∃ token later, scan offset touchesWord ((Builtins.quoteText text).toList ++ rest)
        = token :: scan later false rest
      ∧ token.Quotes text := by
  have whole : (Builtins.quoteText text).toList ++ rest
      = '"' :: (text.toList.flatMap doubled ++ '"' :: rest) := by
    rw [toList_quoteText, List.cons_append, List.append_assoc]
    rfl
  have inked : ¬ Text.isBlank '"' = true := by decide
  rw [whole, scan, if_neg inked, if_pos rfl, splitString_doubled _ closes]
  exact ⟨_, _, rfl, rfl, String.ofList_toList⟩

theorem scan_space (offset : Nat) (touchesWord : Bool) :
    scan offset touchesWord (' ' :: rest) = scan (offset + 1) false rest := by
  have blank : Text.isBlank ' ' = true := by decide
  rw [scan, if_pos blank]
  rfl

theorem splitWord_of_word {word : List Char} (isWord : word.all Text.isWordChar = true) :
    splitWord (word ++ ' ' :: rest) = (word, ' ' :: rest) := by
  induction word with
  | nil => 
    have outside : Text.isWordChar ' ' = false := by decide
    simp [splitWord, outside]
  | cons c word ih =>
      rw [List.all_cons, Bool.and_eq_true] at isWord
      rw [List.cons_append, splitWord, isWord.1, ih isWord.2]
      rfl

/-- What a scan finds at a word in front of a space is that word. -/
theorem scan_word {c : Char} {word : List Char} (inked : Text.isBlank c = false)
    (unquoted : c ≠ '"') (isWord : (c :: word).all Text.isWordChar = true) :
    ∃ token later, scan offset touchesWord (c :: word ++ ' ' :: rest) = token :: scan later false rest
      ∧ token.IsWord (String.ofList (c :: word)) := by
  rw [List.all_cons, Bool.and_eq_true] at isWord
  rw [List.cons_append, scan, inked, if_neg Bool.false_ne_true, if_neg unquoted, isWord.1,
    splitWord_of_word isWord.2]
  exact ⟨_, _, congrArg _ (scan_space _ true), rfl, rfl⟩

/-- What a scan finds at a comma in front of a space is that comma. -/
theorem scan_comma :
    ∃ token later, scan offset touchesWord (',' :: ' ' :: rest) = token :: scan later false rest
      ∧ token.kind = .punct ∧ token.text = "," := by
  have inked : ¬ Text.isBlank ',' = true := by decide
  have outside : ¬ (Text.isWordChar ',' || (',' = '-' && !touchesWord && startsWithDigit (' ' :: rest)))
      = true := by
    simp
    decide
  rw [scan, if_neg inked, if_neg (by decide), if_neg outside]
  exact ⟨_, _, congrArg _ (scan_space _ false), rfl, rfl⟩

end ScriptBridge.Token
