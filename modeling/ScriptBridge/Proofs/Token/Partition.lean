import ScriptBridge.Proofs.Parsing.Report
import ScriptBridge.Proofs.Token.Lexemes
/-!
Tokens partition their text. They stand one behind the other, between them there is nothing but white
space, and each one is read from the piece of text that it stands over: a word or a mark is that piece as
it is written, and a string is what stands between its quotes.
-/

namespace ScriptBridge

namespace Token

/-- What a token is read from, with what stands behind it. Between the quotes of a string each quote that
it contains is written twice, so the first one that is not closes it; a string that is not closed goes on
to the end of the text. -/
inductive ReadFrom (token : Token) : (piece behind : List Char) → Prop where
  | word {piece behind : List Char} (isWord : token.kind = .word) (nonempty : piece ≠ [])
      (written : token.text.toList = piece) (inked : ∀ c ∈ piece, Text.isBlank c = false) :
      ReadFrom token piece behind
  | punct {c : Char} {behind : List Char} (isMark : token.kind = .punct)
      (written : token.text.toList = [c]) (inked : Text.isBlank c = false) :
      ReadFrom token [c] behind
  | closed {behind : List Char} (isString : token.kind = .quoted) (ends : behind.head? ≠ some '"') :
      ReadFrom token ('"' :: (token.text.toList.flatMap doubled ++ ['"'])) behind
  | unclosed (isString : token.kind = .quoted) :
      ReadFrom token ('"' :: token.text.toList.flatMap doubled) []

section Lexemes

variable {touchesWord : Bool} {kind : TokenKind} {content piece behind : List Char}

/-- No white space is taken into a word. -/
theorem inked_of_splitWord {tail : List Char} (whole : splitWord (tail ++ behind) = (tail, behind)) :
    ∀ c ∈ tail, Text.isBlank c = false := by
  induction tail with
  | nil => exact fun c listed => (List.not_mem_nil listed).elim
  | cons first tail ih =>
      obtain ⟨taken, others⟩ := (splitWord_cons_eq_iff ..).1 whole
      refine List.forall_mem_cons.2 ⟨?_, ih others⟩
      -- a blank is no word character, and no point either
      apply Bool.eq_false_iff.2
      intro blank
      have point : first ≠ '.' := by
        rintro rfl
        cases blank
      simp [goesOn, Text.isWordChar_of_isBlank blank, point] at taken

theorem Lexeme.readFrom (lexeme : Lexeme touchesWord kind content piece behind) (start stop : Nat) :
    ReadFrom ⟨kind, String.ofList content, start, stop⟩ piece behind := by
  have text : (String.ofList content).toList = content := String.toList_ofList
  cases lexeme with
  | word inked unquoted begins whole =>
      refine .word rfl (List.cons_ne_nil _ _) text ?_
      exact List.forall_mem_cons.2 ⟨inked, inked_of_splitWord whole⟩
  | punct inked unquoted apart => exact .punct rfl text inked
  | closed ends =>
      have string : ReadFrom ⟨.quoted, String.ofList content, start, stop⟩ _ behind := .closed rfl ends
      rwa [text] at string
  | unclosed =>
      have string : ReadFrom ⟨.quoted, String.ofList content, start, stop⟩ _ [] := .unclosed rfl
      rwa [text] at string

end Lexemes

namespace Scans

variable {offset : Nat} {touchesWord : Bool} {cs : List Char} {tokens : List Token}

/-- A character that no token stands over is white space. -/
theorem covers (scans : Scans offset touchesWord cs tokens) {before after : List Char} {c : Char}
    (here : cs = before ++ c :: after) :
    Text.isBlank c = true ∨ ∃ token ∈ tokens, token.start ≤ offset + byteCount before
      ∧ offset + byteCount (before ++ [c]) ≤ token.stop := by
  induction scans generalizing before with
  | done => exact absurd here.symm (List.append_ne_nil_of_right_ne_nil _ (List.cons_ne_nil _ _))
  | blank blank others ih =>
      cases before with
      | nil =>
          cases here
          exact .inl blank
      | cons d before =>
          cases here
          rcases ih rfl with isBlank | ⟨token, listed, starts, stops⟩
          · exact .inl isBlank
          · rw [Nat.add_assoc] at starts stops
            exact .inr ⟨token, listed, starts, stops⟩
  | @lexeme offset touchesWord kind content piece behind tokens lexeme others ih =>
      rcases List.append_eq_append_iff.1 here with
        ⟨between, rfl, further⟩ | ⟨inside, rfl, further⟩
      · rcases ih further with isBlank | ⟨token, listed, starts, stops⟩
        · exact .inl isBlank
        · refine .inr ⟨token, List.mem_cons_of_mem _ listed, ?_, ?_⟩
          · rwa [byteCount_append, ← Nat.add_assoc]
          · rwa [List.append_assoc, byteCount_append, ← Nat.add_assoc]
      · cases inside with
        | nil =>
            rcases @ih [] further.symm with isBlank | ⟨token, listed, starts, stops⟩
            · exact .inl isBlank
            · rw [List.append_nil] at starts stops
              refine .inr ⟨token, List.mem_cons_of_mem _ listed, starts, ?_⟩
              rwa [byteCount_append, ← Nat.add_assoc]
        | cons d inside =>
            obtain ⟨rfl, -⟩ := List.cons.inj further
            refine .inr ⟨_, List.mem_cons_self, Nat.le_add_right .., ?_⟩
            have whole : before ++ c :: inside = before ++ [c] ++ inside := List.append_cons ..
            rw [whole, byteCount_append (before ++ [c])]
            exact Nat.add_le_add_left (Nat.le_add_right ..) offset

/-- Each token is read from the piece that it stands over. -/
theorem reads (scans : Scans offset touchesWord cs tokens) : ∀ token ∈ tokens, ∃ before piece behind,
    cs = before ++ piece ++ behind ∧ token.start = offset + byteCount before
      ∧ token.stop = offset + byteCount (before ++ piece) ∧ token.ReadFrom piece behind := by
  induction scans with
  | done => exact fun token listed => (List.not_mem_nil listed).elim
  | @blank offset touchesWord c rest tokens blank others ih =>
      intro token listed
      obtain ⟨before, piece, behind, rfl, starts, stops, reads⟩ := ih token listed
      refine ⟨c :: before, piece, behind, rfl, ?_, ?_, reads⟩
      · rw [starts, byteCount, Nat.add_assoc]
      · rw [stops, List.cons_append, byteCount, Nat.add_assoc]
  | @lexeme offset touchesWord kind content piece behind tokens lexeme others ih =>
      intro token listed
      rcases List.mem_cons.1 listed with rfl | listed
      · exact ⟨[], piece, behind, rfl, rfl, rfl, lexeme.readFrom ..⟩
      · obtain ⟨before, own, rest, rfl, starts, stops, reads⟩ := ih token listed
        refine ⟨piece ++ before, own, rest, by simp only [List.append_assoc], ?_, ?_, reads⟩
        · rw [starts, byteCount_append, Nat.add_assoc]
        · rw [stops, List.append_assoc, byteCount_append piece, Nat.add_assoc]

end Scans

/-- The tokens of a text partition it. They stand in it one behind the other, none of them empty, with all
offsets between characters; what no token stands over is white space; and each token is read from the
piece of text between its offsets. Hence the text of every session that is opened on it is a piece of whole
characters, from its first token to its last. -/
theorem tokens_partition (text : String) :
    Stand text.toList 0 (tokenize text)
      ∧ (∀ before c after, text.toList = before ++ c :: after →
          Text.isBlank c = true ∨ ∃ token ∈ tokenize text,
            token.start ≤ byteCount before ∧ byteCount (before ++ [c]) ≤ token.stop)
      ∧ (∀ token ∈ tokenize text, ∃ before piece behind, text.toList = before ++ piece ++ behind
          ∧ token.start = byteCount before ∧ token.stop = byteCount (before ++ piece)
          ∧ token.ReadFrom piece behind)
      ∧ ∀ session : Parsing.Session, session.Opened → session.source.text = text.toList →
          ∀ first last, session.tokens.head? = some first → session.tokens.getLast? = some last →
            Text.IsPiece text.toList first.start last.stop
              (session.source.textOf session.tokens).toList := by
  have scans : Scans 0 false text.toList (tokenize text) := scans_scan 0 false text.toList
  refine ⟨stand_tokenize text, ?_, ?_, ?_⟩
  · intro before c after here
    simpa only [Nat.zero_add] using scans.covers here
  · simpa only [Nat.zero_add] using scans.reads
  · intro session opened same first last isFirst isLast
    exact same ▸ opened.textOf isFirst isLast

end Token

end ScriptBridge
