import ScriptBridge.Proofs.Token.Lexemes
import ScriptBridge.Proofs.Token.Places
import ScriptBridge.Script.Line
/-!
Comments, as the tokens of a line tell of them. Whether a number sign stands outside of quotes is found by
turning over at every quote, and by the scan, which reads strings as they are written; the two agree. Main
statement: a line ends where its first token begins that is a number sign, and the tokens in front of it are
those that are left. For a number sign takes part in no word, and closes no string, so a lexeme in front of
it is the same without it.
-/

namespace ScriptBridge

namespace Token

/-- The token opens a comment: it is a number sign by itself. -/
def opensComment (token : Token) : Bool :=
  token.kind = .punct && token.text = "#"

/-! ### Lexemes in front of a number sign -/

section Lexemes

variable {touchesWord : Bool} {kind : TokenKind} {content piece behind before comment tail : List Char}

theorem isWordChar_numberSign : Text.isWordChar '#' = false := by decide

theorem isWordChar_quote : Text.isWordChar '"' = false := by decide

theorem startsWithDigit_numberSign (before comment : List Char) :
    startsWithDigit (before ++ '#' :: comment) = startsWithDigit before := by
  cases before with
  | nil => rfl
  | cons c before => rfl

theorem goesOn_numberSign (before comment : List Char) :
    goesOn (before ++ '#' :: comment) = goesOn before := by
  cases before with
  | nil => exact (Bool.or_eq_false_iff.2 ⟨isWordChar_numberSign, rfl⟩ : goesOn ('#' :: comment) = false)
  | cons c before => rw [List.cons_append, goesOn, goesOn, startsWithDigit_numberSign]

theorem beginsWord_numberSign (touchesWord : Bool) (c : Char) (before comment : List Char) :
    beginsWord touchesWord c (before ++ '#' :: comment) = beginsWord touchesWord c before := by
  rw [beginsWord, beginsWord, startsWithDigit_numberSign]

theorem whole_of_numberSign
    (whole : splitWord (tail ++ (before ++ '#' :: comment)) = (tail, before ++ '#' :: comment)) :
    splitWord (tail ++ before) = (tail, before) := by
  induction tail with
  | nil =>
      have stops : goesOn (before ++ '#' :: comment) = false := (splitWord_eq_nil_iff _).1 whole
      rw [goesOn_numberSign] at stops
      exact (splitWord_eq_nil_iff before).2 stops
  | cons c tail ih =>
      rw [List.cons_append] at whole ⊢
      obtain ⟨taken, others⟩ := (splitWord_cons_eq_iff ..).1 whole
      refine (splitWord_cons_eq_iff ..).2 ⟨?_, ih others⟩
      rwa [← List.append_assoc, ← List.cons_append, goesOn_numberSign] at taken

/-- A lexeme in front of a number sign stays one if the text ends there. -/
theorem Lexeme.of_numberSign (lexeme : Lexeme touchesWord kind content piece (before ++ '#' :: comment)) :
    Lexeme touchesWord kind content piece before := by
  generalize same : before ++ '#' :: comment = behind at lexeme
  cases lexeme with
  | word inked unquoted begins whole =>
      subst same
      rw [← List.append_assoc, beginsWord_numberSign] at begins
      exact .word inked unquoted begins (whole_of_numberSign whole)
  | punct inked unquoted apart =>
      subst same
      rw [beginsWord_numberSign] at apart
      exact .punct inked unquoted apart
  | closed ends =>
      subst same
      apply Lexeme.closed
      cases before with
      | nil => simp
      | cons c before => exact ends
  | unclosed => exact absurd same (by simp)

/-- A word is made of word characters and points. -/
theorem isWordChar_or_point_of_mem (whole : splitWord (tail ++ behind) = (tail, behind)) :
    ∀ c ∈ tail, Text.isWordChar c = true ∨ c = '.' := by
  induction tail with
  | nil => exact fun c listed => absurd listed List.not_mem_nil
  | cons first tail ih =>
      obtain ⟨taken, others⟩ := (splitWord_cons_eq_iff ..).1 whole
      refine List.forall_mem_cons.2 ⟨?_, ih others⟩
      rw [goesOn, Bool.or_eq_true, Bool.and_eq_true, decide_eq_true_eq] at taken
      exact taken.imp_right And.left

end Lexemes

end Token

namespace Script

open Token

/-! ### What is left of a line -/

section Stripping

variable {quoted touchesWord : Bool} {kind : TokenKind} {content piece behind : List Char}

/-- What stripping takes away is nothing, or it begins with a number sign. -/
theorem exists_comment (quoted : Bool) (line : List Char) :
    ∃ comment, line = stripCommentFrom quoted line ++ comment
      ∧ (comment = [] ∨ ∃ others, comment = '#' :: others) := by
  induction line generalizing quoted with
  | nil => exact ⟨[], rfl, .inl rfl⟩
  | cons c rest ih =>
      rw [stripCommentFrom]
      split
      · obtain ⟨comment, whole, opens⟩ := ih !quoted
        exact ⟨comment, congrArg (c :: ·) whole, opens⟩
      · split
        · next sign =>
            rw [Bool.and_eq_true, decide_eq_true_eq] at sign
            exact ⟨c :: rest, rfl, .inr ⟨rest, by rw [sign.1]⟩⟩
        · obtain ⟨comment, whole, opens⟩ := ih quoted
          exact ⟨comment, congrArg (c :: ·) whole, opens⟩

theorem stripCommentFrom_append_of_plain {plain : List Char} (ordinary : ∀ c ∈ plain, c ≠ '"' ∧ c ≠ '#')
    (behind : List Char) :
    stripCommentFrom false (plain ++ behind) = plain ++ stripCommentFrom false behind := by
  induction plain with
  | nil => rfl
  | cons c plain ih =>
      obtain ⟨⟨noQuote, noSign⟩, others⟩ := List.forall_mem_cons.1 ordinary
      rw [List.cons_append, stripCommentFrom, if_neg noQuote, if_neg (by simp [noSign]), ih others,
        List.cons_append]

/-- A string is open behind any content with its quotes doubled. -/
theorem stripCommentFrom_doubled (content behind : List Char) :
    stripCommentFrom true (content.flatMap doubled ++ behind)
      = content.flatMap doubled ++ stripCommentFrom true behind := by
  induction content with
  | nil => rfl
  | cons c content ih =>
      rw [List.flatMap_cons, doubled]
      split
      · -- the first of the two quotes closes the string, and the second opens it again
        simp [stripCommentFrom, ih]
      · next noQuote => simp [stripCommentFrom, noQuote, ih]

/-- Stripping leaves a lexeme whole and goes on behind it, unless the lexeme opens a comment. -/
theorem stripCommentFrom_lexeme (lexeme : Lexeme touchesWord kind content piece behind)
    (stays : ¬ (kind = .punct ∧ content = ['#'])) :
    stripCommentFrom false (piece ++ behind) = piece ++ stripCommentFrom false behind := by
  cases lexeme with
  | @word c tail behind inked unquoted begins whole =>
      apply stripCommentFrom_append_of_plain
      have first : c ≠ '#' := by
        rintro rfl
        simp [beginsWord, isWordChar_numberSign] at begins
      refine List.forall_mem_cons.2 ⟨⟨unquoted, first⟩, ?_⟩
      intro d listed
      rcases isWordChar_or_point_of_mem whole d listed with inWord | rfl
      · constructor
        · rintro rfl
          cases isWordChar_quote.symm.trans inWord
        · rintro rfl
          cases isWordChar_numberSign.symm.trans inWord
      · decide
  | @punct c behind inked unquoted apart =>
      apply stripCommentFrom_append_of_plain
      have other : c ≠ '#' := fun sign => stays ⟨rfl, by rw [sign]⟩
      exact List.forall_mem_singleton.2 ⟨unquoted, other⟩
  | closed ends =>
      rw [List.cons_append, stripCommentFrom, if_pos rfl, List.append_assoc, Bool.not_false,
        stripCommentFrom_doubled]
      simp [stripCommentFrom]
  | unclosed =>
      have whole := stripCommentFrom_doubled content []
      rw [List.append_nil] at whole
      simp [stripCommentFrom, whole]

theorem opensComment_lexeme (kind : TokenKind) (content : List Char) (start stop : Nat) :
    opensComment ⟨kind, String.ofList content, start, stop⟩ = true ↔ kind = .punct ∧ content = ['#'] := by
  have sign : "#" = String.ofList ['#'] := rfl
  rw [opensComment, Bool.and_eq_true, decide_eq_true_eq, decide_eq_true_eq, sign, String.ofList_inj]

theorem stripCommentFrom_blank {c : Char} (blank : Text.isBlank c = true) (rest : List Char) :
    stripCommentFrom false (c :: rest) = c :: stripCommentFrom false rest := by
  have ordinary : ∀ d ∈ [c], d ≠ '"' ∧ d ≠ '#' := by
    rw [List.forall_mem_singleton]
    constructor
    · rintro rfl
      cases blank
    · rintro rfl
      cases blank
  exact stripCommentFrom_append_of_plain ordinary rest

/-! ### Two scans side by side -/

variable {offset : Nat} {cs : List Char} {tokens : List Token}

/-- A scan of what stripping leaves finds the tokens in front of the first one that opens a comment. -/
theorem scans_stripped (scans : Scans offset touchesWord cs tokens) :
    Scans offset touchesWord (stripCommentFrom false cs) (tokens.takeWhile (!·.opensComment)) := by
  induction scans with
  | done => exact .done
  | @blank offset touchesWord c rest tokens blank others ih =>
      rw [stripCommentFrom_blank blank]
      exact .blank blank ih
  | @lexeme offset touchesWord kind content piece behind tokens lexeme others ih =>
      by_cases opens : kind = .punct ∧ content = ['#']
      · rw [List.takeWhile_cons_of_neg (by simpa using (opensComment_lexeme ..).2 opens)]
        obtain ⟨rfl, rfl⟩ := opens
        cases lexeme with
        | punct => exact .done
      · have stays := mt (opensComment_lexeme kind content offset (offset + byteCount piece)).1 opens
        rw [List.takeWhile_cons_of_pos (by simpa using stays), stripCommentFrom_lexeme lexeme opens]
        refine .lexeme ?_ ih
        obtain ⟨comment, whole, rfl | ⟨comment, rfl⟩⟩ := exists_comment false behind
        · rw [List.append_nil] at whole
          rwa [← whole]
        · rw [whole] at lexeme
          exact lexeme.of_numberSign

/-- What stripping leaves ends where the first token begins that opens a comment. -/
theorem stripCommentFrom_ends (scans : Scans offset touchesWord cs tokens) :
    match tokens.find? opensComment with
    | some mark => mark.start = offset + byteCount (stripCommentFrom false cs)
    | none => stripCommentFrom false cs = cs := by
  induction scans with
  | done => rfl
  | @blank offset touchesWord c rest tokens blank others ih =>
      rw [stripCommentFrom_blank blank]
      revert ih
      cases tokens.find? opensComment with
      | none => exact congrArg (c :: ·)
      | some mark => exact fun starts => starts.trans (Nat.add_assoc ..)
  | @lexeme offset touchesWord kind content piece behind tokens lexeme others ih =>
      by_cases opens : kind = .punct ∧ content = ['#']
      · rw [List.find?_cons_of_pos ((opensComment_lexeme ..).2 opens)]
        obtain ⟨rfl, rfl⟩ := opens
        cases lexeme with
        | punct => rfl
      · have stays := mt (opensComment_lexeme kind content offset (offset + byteCount piece)).1 opens
        rw [List.find?_cons_of_neg stays, stripCommentFrom_lexeme lexeme opens]
        revert ih
        cases tokens.find? opensComment with
        | none => exact congrArg (piece ++ ·)
        | some mark =>
            intro starts
            rw [byteCount_append, ← Nat.add_assoc]
            exact starts

end Stripping

/-- Stripping a comment agrees with the tokens of the line. What is left is the line up to the start of its
first token that is a number sign by itself, or all of it if there is none; and the tokens of what is left are
those in front of that number sign. -/
theorem stripComment_agrees_with_tokens (line : List Char) :
    (stripComment line
        = match (tokenize (String.ofList line)).find? opensComment with
          | some mark => Text.takeBytes mark.start line
          | none => line)
      ∧ tokenize (String.ofList (stripComment line))
        = (tokenize (String.ofList line)).takeWhile (!·.opensComment) := by
  have scans : Scans 0 false line (tokenize (String.ofList line)) := by
    rw [tokenize, String.toList_ofList]
    exact scans_scan 0 false line
  constructor
  · have place := stripCommentFrom_ends scans
    obtain ⟨comment, whole, -⟩ := exists_comment false line
    cases found : (tokenize (String.ofList line)).find? opensComment with
    | none =>
        rw [found] at place
        exact place
    | some mark =>
        rw [found] at place
        have ends : mark.start = byteCount (stripComment line) := place.trans (Nat.zero_add _)
        have cut := Text.takeBytes_append (stripComment line) comment
        rw [stripComment, ← whole] at cut
        show stripComment line = Text.takeBytes mark.start line
        rw [ends]
        exact cut.symm
  · have stripped := (scans_stripped scans).eq_scan
    rw [stripped, tokenize, String.toList_ofList]
    rfl

end Script

end ScriptBridge
