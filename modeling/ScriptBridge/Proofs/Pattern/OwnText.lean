import ScriptBridge.Proofs.Parsing.Wording
import ScriptBridge.Proofs.Pattern.Compilation
import ScriptBridge.Proofs.Text.LowerCase
/-!
Patterns of literal text alone, matched against the text they were compiled from. The letters of a pattern
are put in lower case as the standard has it when the pattern is compiled, but compared up to the case of
ASCII letters when it is matched, and a string is never a literal. Main statement: such a pattern compiles,
and it matches its own text exactly if the text has no double quote and the two ways to fold case agree on
every character of it.
-/

namespace ScriptBridge

namespace Text

/-- The two ways to fold the case of a character agree: it is an ASCII character, or its only lower-case
form is itself. -/
def FoldsAlike (c : Char) : Prop :=
  c.toNat < 128 ∨ lowerChar c = [c]

instance (c : Char) : Decidable (FoldsAlike c) :=
  inferInstanceAs (Decidable (_ ∨ _))

/-- Only ASCII letters change when case is folded up to them. -/
theorem toLower_of_not_ascii {c : Char} (beyond : ¬ c.toNat < 128) : c.toLower = c := by
  refine dif_neg fun letter => ?_
  have le_z : c.toNat ≤ 'Z'.toNat := letter.2
  exact beyond (Nat.lt_of_le_of_lt le_z (by decide))

theorem toLower_eq_iff {c d : Char} (beyond : ¬ c.toNat < 128) : d.toLower = c ↔ d = c := by
  by_cases ascii : d.toNat < 128
  · have still := toNat_toLower_lt ascii
    constructor
    · rintro rfl
      exact absurd still beyond
    · rintro rfl
      exact absurd ascii beyond
  · rw [toLower_of_not_ascii ascii]

/-- White space has no case. -/
theorem foldsAlike_of_isBlank {c : Char} (blank : isBlank c = true) : FoldsAlike c :=
  forall_blank (by decide) blank

/-- Apart from the dotted capital I, the lower-case form of a character is one character. -/
theorem exists_lowerChar_eq {c : Char} (undotted : c ≠ 'İ') : ∃ d, lowerChar c = [d] := by
  rw [lowerChar, if_neg undotted]
  split
  · exact ⟨_, rfl⟩
  · split
    · exact ⟨_, rfl⟩
    · exact ⟨_, rfl⟩

/-- A character in front, and its lower-case form in front of another text: up to the case of ASCII
letters these are the same exactly if its case folds alike and what follows is the same. -/
theorem cons_eq_lowerChar_append_iff (c : Char) (cs others : List Char) :
    (c :: cs).map Char.toLower = (lowerChar c ++ others).map Char.toLower
      ↔ FoldsAlike c ∧ cs.map Char.toLower = others.map Char.toLower := by
  by_cases ascii : c.toNat < 128
  · rw [lowerChar_of_ascii ascii, List.singleton_append, List.map_cons, List.map_cons,
      Char.toLower_toLower_eq_toLower, List.cons.injEq]
    exact and_congr_left fun _ => iff_of_true rfl (.inl ascii)
  · by_cases dotted : c = 'İ'
    · subst dotted
      have apart : ¬ FoldsAlike 'İ' := by decide
      have heads : Char.toLower 'İ' ≠ Char.toLower 'i' := by decide
      constructor
      · intro same
        exact absurd (List.cons.inj same).1 heads
      · intro alike
        exact absurd alike.1 apart
    · obtain ⟨d, lowered⟩ := exists_lowerChar_eq dotted
      rw [lowered, List.singleton_append, List.map_cons, List.map_cons, List.cons.injEq,
        toLower_of_not_ascii ascii, eq_comm, toLower_eq_iff ascii]
      rw [FoldsAlike, lowered, List.singleton_inj, or_iff_right ascii]

/-- A text is its own lower-case form, up to the case of ASCII letters, exactly if all its characters fold
alike. -/
theorem map_toLower_lowercaseFrom_iff (before cs : List Char) :
    cs.map Char.toLower = (lowercaseFrom before cs).map Char.toLower ↔ ∀ c ∈ cs, FoldsAlike c := by
  induction cs generalizing before with
  | nil => simp [lowercaseFrom]
  | cons c rest ih =>
      rw [List.forall_mem_cons, lowercaseFrom]
      by_cases sigma : c = 'Σ'
      · -- neither lower-case form of this letter is compared as equal to it
        subst sigma
        have apart : ¬ FoldsAlike 'Σ' := by decide
        have small : Char.toLower 'Σ' ≠ Char.toLower 'σ' := by decide
        have final : Char.toLower 'Σ' ≠ Char.toLower 'ς' := by decide
        rw [if_pos rfl]
        constructor
        · intro same
          have heads := (List.cons.inj same).1
          split at heads
          · exact absurd heads final
          · exact absurd heads small
        · intro alike
          exact absurd alike.1 apart
      · rw [if_neg sigma, cons_eq_lowerChar_append_iff, ih]

theorem sameIgnoringCase_lowercase_iff (text : String) :
    sameIgnoringCase text (lowercase text) = true ↔ ∀ c ∈ text.toList, FoldsAlike c := by
  rw [sameIgnoringCase, beq_iff_eq, lowercase, String.toList_ofList]
  exact map_toLower_lowercaseFrom_iff [] text.toList

end Text

namespace Token

/-- A word ends in front of a double quote. -/
theorem quote_notMem_splitWord (cs : List Char) : '"' ∉ (splitWord cs).1 := by
  induction cs with
  | nil => exact List.not_mem_nil
  | cons c rest ih =>
      rw [splitWord]
      split
      · next inWord =>
          refine List.not_mem_cons_of_ne_of_not_mem ?_ ih
          rintro rfl
          have outside : Text.isWordChar '"' = false := by decide
          rw [outside] at inWord
          cases inWord
      · exact List.not_mem_nil

/-- What holds of a token that is no string, and of the text behind it, holds of the text from that token
on. -/
theorem front_iff {P : Char → Prop} {token : Token} {piece after : List Char}
    (word : token.kind ≠ .quoted) (text : token.text.toList = piece) (unmarked : '"' ∉ piece) :
    ((token.kind ≠ .quoted ∧ ∀ c ∈ token.text.toList, P c) ∧ '"' ∉ after ∧ ∀ c ∈ after, P c)
      ↔ '"' ∉ piece ++ after ∧ ∀ c ∈ piece ++ after, P c := by
  rw [text, List.forall_mem_append, List.mem_append, not_or]
  constructor
  · intro ⟨⟨_, here⟩, behind, there⟩
    exact ⟨⟨unmarked, behind⟩, here, there⟩
  · intro ⟨⟨_, behind⟩, here, there⟩
    exact ⟨⟨word, here⟩, behind, there⟩

/-- The tokens of a text are made of its characters, apart from white space and the marks of strings: no
token is a string and all their characters are of some kind exactly if the text has no double quote and
is of that kind. -/
theorem forall_mem_scan_iff {P : Char → Prop} (blanks : ∀ c, Text.isBlank c = true → P c)
    (offset : Nat) (touchesWord : Bool) (cs : List Char) :
    (∀ token ∈ scan offset touchesWord cs, token.kind ≠ .quoted ∧ ∀ c ∈ token.text.toList, P c)
      ↔ '"' ∉ cs ∧ ∀ c ∈ cs, P c := by
  induction offset, touchesWord, cs using scan.induct with
  | case1 offset touchesWord => simp [scan]
  | case2 offset touchesWord c rest blank ih =>
      have apart : '"' ≠ c := by
        rintro rfl
        cases blank
      rw [scan, if_pos blank, ih, List.forall_mem_cons, List.mem_cons, not_or]
      simp [apart, blanks c blank]
  | case3 offset touchesWord rest body stop inked ih =>
      rw [scan, if_neg inked, if_pos rfl, List.forall_mem_cons]
      simp
  | case4 offset touchesWord c rest inked apart inWord tail stop ih =>
      have outside : '"' ∉ c :: tail :=
        List.not_mem_cons_of_ne_of_not_mem (Ne.symm apart) (quote_notMem_splitWord rest)
      rw [scan, if_neg inked, if_neg apart, if_pos inWord, List.forall_mem_cons, ih,
        front_iff (by simp) String.toList_ofList outside, List.cons_append, splitWord_append]
  | case5 offset touchesWord c rest inked apart outside ih =>
      have text : c.toString.toList = [c] := String.toList_singleton c
      have unmarked : '"' ∉ [c] := by simpa using Ne.symm apart
      have front := @front_iff P ⟨.punct, c.toString, offset, offset + c.utf8Size⟩ [c] rest
        TokenKind.noConfusion text unmarked
      rw [scan, if_neg inked, if_neg apart, if_neg outside, List.forall_mem_cons, ih, front,
        List.singleton_append]

/-- A token of a text that is no string is the literal that it stands for in a pattern exactly if its
characters fold alike. -/
theorem isLiteral_patternLiteral_iff (token : Token) :
    token.isLiteral token.patternLiteral = true
      ↔ token.kind ≠ .quoted ∧ ∀ c ∈ token.text.toList, Text.FoldsAlike c := by
  rw [isLiteral, Bool.and_eq_true, decide_eq_true_eq]
  refine and_congr_right fun word => ?_
  have literal : token.patternLiteral = Text.lowercase token.text := by
    unfold patternLiteral
    split
    · contradiction
    · rfl
  rw [literal, Text.sameIgnoringCase_lowercase_iff]

end Token

namespace Parsing

/-- Tokens spell the literals that they stand for if each is the one that it stands for. -/
theorem spells_own_iff (literal : Token → String) (before tokens : List Token) :
    spells (before ++ tokens) before.length (tokens.map literal) = true
      ↔ ∀ token ∈ tokens, token.isLiteral (literal token) = true := by
  induction tokens generalizing before with
  | nil => simp [spells]
  | cons token rest ih =>
      have here : (before ++ token :: rest)[before.length]? = some token := by simp
      have there := ih (before ++ [token])
      rw [List.append_assoc, List.length_append] at there
      rw [List.map_cons, spells, here, Option.any_some, Bool.and_eq_true, List.forall_mem_cons]
      exact and_congr_right fun _ => there

end Parsing

namespace Pattern

/-- Text without marks is one run of literal text. -/
theorem reads_unmarked {text : List Char} (unmarked : ∀ c ∈ text, c ∉ Syntax.marks)
    (number : Nat) (run : List Char) :
    SequenceReads number run text (Syntax.literalsOf (run ++ text)) number := by
  induction text generalizing run with
  | nil =>
      rw [List.append_nil]
      exact .done
  | cons c rest ih =>
      obtain ⟨ordinary, others⟩ := List.forall_mem_cons.1 unmarked
      have reads := ih others (run ++ [c])
      rw [List.append_assoc] at reads
      exact .plain ordinary reads

/-- A text without marks and with a token compiles as a pattern, and that pattern matches its own text
exactly if the text has no double quote and all its characters fold alike: a capital beyond ASCII is put in
lower case in the pattern and then found to differ, and a string is never a literal. -/
theorem matches_own_text_iff {source : String} (unmarked : ∀ c ∈ source.toList, c ∉ Syntax.marks)
    (nonempty : Token.tokenize source ≠ []) :
    ∃ pattern, compile source = .ok pattern
      ∧ ∀ registries world options number,
          ((Parsing.Session.ofText registries world options source).match? number pattern).isSome = true
            ↔ '"' ∉ source.toList ∧ ∀ c ∈ source.toList, Text.FoldsAlike c := by
  have reads := reads_unmarked unmarked 0 []
  rw [List.nil_append, Syntax.literalsOf, String.ofList_toList] at reads
  refine ⟨_, compile_of_reads reads (by simpa using nonempty), ?_⟩
  intro registries world options number
  have words : (Token.tokenize source).map (fun token => Node.literal token.patternLiteral)
      = ((Token.tokenize source).map Token.patternLiteral).map .literal := by
    rw [List.map_map]
    rfl
  have spelled := Parsing.spells_own_iff Token.patternLiteral [] (Token.tokenize source)
  have tokens := Token.forall_mem_scan_iff (fun _ blank => Text.foldsAlike_of_isBlank blank)
    0 false source.toList
  calc ((Parsing.Session.ofText registries world options source).match? number _).isSome = true
    _ ↔ Parsing.spells (Token.tokenize source) 0
          ((Token.tokenize source).map Token.patternLiteral) = true := by
        rw [Parsing.Session.match?, Parsing.Source.match?, Option.isSome_map, Parsing.matchPattern,
          words, Parsing.matchNodes_words, Option.isSome_ite]
        rfl
    _ ↔ ∀ token ∈ Token.tokenize source, token.isLiteral token.patternLiteral = true := spelled
    _ ↔ ∀ token ∈ Token.tokenize source,
          token.kind ≠ .quoted ∧ ∀ c ∈ token.text.toList, Text.FoldsAlike c :=
        forall₂_congr fun token _ => token.isLiteral_patternLiteral_iff
    _ ↔ '"' ∉ source.toList ∧ ∀ c ∈ source.toList, Text.FoldsAlike c := tokens

/-- What is checked of the characters of a text one by one holds of all of them. -/
theorem forall_mem_of_all {P : Char → Prop} [DecidablePred P] {cs : List Char}
    (checked : cs.all (fun c => decide (P c)) = true) : ∀ c ∈ cs, P c := by
  intro c listed
  exact of_decide_eq_true (List.all_eq_true.1 checked c listed)

/-- The words of an ordinary pattern match themselves; an acute capital does not, nor does a string. -/
theorem matches_own_text_words :
    (∃ pattern, compile "Say it, 2 times!" = .ok pattern
        ∧ ∀ registries world options number,
            ((Parsing.Session.ofText registries world options "Say it, 2 times!").match? number
              pattern).isSome = true)
      ∧ (∃ pattern, compile "É" = .ok pattern
        ∧ ∀ registries world options number,
            (Parsing.Session.ofText registries world options "É").match? number pattern = none)
      ∧ ∃ pattern, compile "say \"it\"" = .ok pattern
        ∧ ∀ registries world options number,
            (Parsing.Session.ofText registries world options "say \"it\"").match? number pattern
              = none := by
  refine ⟨?_, ?_, ?_⟩
  · obtain ⟨pattern, compiles, own⟩ :=
      @matches_own_text_iff "Say it, 2 times!" (forall_mem_of_all (by decide)) (by decide +kernel)
    refine ⟨pattern, compiles, fun registries world options number => ?_⟩
    apply (own registries world options number).2
    exact ⟨by decide, forall_mem_of_all (by decide)⟩
  · obtain ⟨pattern, compiles, own⟩ :=
      @matches_own_text_iff "É" (forall_mem_of_all (by decide)) (by decide +kernel)
    refine ⟨pattern, compiles, fun registries world options number => ?_⟩
    apply Option.not_isSome_iff_eq_none.1
    intro matched
    obtain ⟨-, alike⟩ := (own registries world options number).1 matched
    have apart : ¬ Text.FoldsAlike 'É' := by decide
    exact apart (alike 'É' (by decide))
  · obtain ⟨pattern, compiles, own⟩ :=
      @matches_own_text_iff "say \"it\"" (forall_mem_of_all (by decide)) (by decide +kernel)
    refine ⟨pattern, compiles, fun registries world options number => ?_⟩
    apply Option.not_isSome_iff_eq_none.1
    intro matched
    obtain ⟨unquoted, -⟩ := (own registries world options number).1 matched
    exact unquoted (by decide)

end Pattern

end ScriptBridge
