import ScriptBridge.Proofs.Token.Separation
/-!
Tokens as they are written. A token can be written on its own, apart from the text that it was read from: a
string between its quotes, and anything else as it is. With nothing but white space behind it, what is written
is read as that token again, whatever stood next to it before; so a text is read back from its tokens.
-/

namespace ScriptBridge.Token

/-- A token as it is written: a string between quotes, with its own quotes doubled, and anything else as it
is. -/
def written (token : Token) : String :=
  match token.kind with
  | .quoted => Builtins.quoteText token.text
  | .word | .punct => token.text

/-- Tokens as they are written, with a space between every two of them. -/
def print (tokens : List Token) : String :=
  " ".intercalate (tokens.map written)

/-- The text ends here, or white space follows. -/
def BreaksOff (cs : List Char) : Prop :=
  ∀ c ∈ cs.head?, Text.isBlank c = true

section Lexemes

variable {touchesWord : Bool} {kind : TokenKind} {content piece behind rest tail : List Char}

theorem BreaksOff.startsWithDigit (breaks : BreaksOff rest) : startsWithDigit rest = false := by
  cases rest with
  | nil => rfl
  | cons c rest => exact Text.isDigit_of_isBlank (breaks c rfl)

theorem BreaksOff.goesOn (breaks : BreaksOff rest) : goesOn rest = false := by
  cases rest with
  | nil => rfl
  | cons c rest =>
      have blank := breaks c rfl
      have point : c ≠ '.' := by
        rintro rfl
        cases blank
      simp [Token.goesOn, Text.isWordChar_of_isBlank blank, point]

theorem BreaksOff.not_quote (breaks : BreaksOff rest) : rest.head? ≠ some '"' := by
  intro quote
  have blank := breaks '"' quote
  cases blank

/-- What was taken for the rest of a word is still all of it if nothing follows that goes on with it. -/
theorem splitWord_of_whole (whole : splitWord (tail ++ behind) = (tail, behind))
    (stops : goesOn rest = false) : splitWord (tail ++ rest) = (tail, rest) := by
  induction tail with
  | nil => exact (splitWord_eq_nil_iff rest).2 stops
  | cons c tail ih =>
      obtain ⟨taken, others⟩ := (splitWord_cons_eq_iff ..).1 whole
      refine (splitWord_cons_eq_iff ..).2 ⟨?_, ih others⟩
      exact goesOn_imp (fun starts => startsWithDigit_of_whole others starts _) taken

/-- Away from the word in front of it, a word begins at least where it began behind that one. -/
theorem beginsWord_apart {c : Char} (begins : beginsWord touchesWord c rest = true) :
    beginsWord false c rest = true := by
  cases touchesWord with
  | false => exact begins
  | true => simpa [beginsWord] using Or.inl begins

/-- Away from its neighbours a lexeme is still one: what is written for its token is read as that token. -/
theorem Lexeme.alone (lexeme : Lexeme touchesWord kind content piece behind) (breaks : BreaksOff rest)
    (start stop : Nat) :
    Lexeme false kind content (written ⟨kind, String.ofList content, start, stop⟩).toList rest := by
  cases lexeme with
  | word inked unquoted begins whole =>
      have apart := beginsWord_apart begins
      simp only [written, String.toList_ofList]
      refine .word inked unquoted ?_ (splitWord_of_whole whole breaks.goesOn)
      exact beginsWord_imp (fun starts => startsWithDigit_of_whole whole starts _) apart
  | punct inked unquoted apart =>
      simp only [written, String.toList_ofList]
      refine .punct inked unquoted ?_
      rw [beginsWord, Bool.or_eq_false_iff] at apart
      rw [beginsWord, apart.1, breaks.startsWithDigit, Bool.and_false, Bool.or_false]
  | closed ends =>
      simp only [written, toList_quoteText, String.toList_ofList]
      exact .closed breaks.not_quote
  | unclosed =>
      simp only [written, toList_quoteText, String.toList_ofList]
      exact .closed breaks.not_quote

end Lexemes

/-- With white space behind it, or nothing, what is written for the token is read as the token. -/
def ReadsAlone (token : Token) : Prop :=
  ∀ rest, BreaksOff rest → Lexeme false token.kind token.text.toList token.written.toList rest

theorem Scans.readsAlone {offset : Nat} {touchesWord : Bool} {cs : List Char} {tokens : List Token}
    (scans : Scans offset touchesWord cs tokens) : ∀ token ∈ tokens, token.ReadsAlone := by
  induction scans with
  | done => exact fun token listed => (List.not_mem_nil listed).elim
  | blank blank others ih => exact ih
  | lexeme lexeme others ih =>
      refine List.forall_mem_cons.2 ⟨fun rest breaks => ?_, ih⟩
      rw [String.toList_ofList]
      exact lexeme.alone breaks _ _

theorem print_cons_cons (token next : Token) (others : List Token) :
    (print (token :: next :: others)).toList
      = token.written.toList ++ ' ' :: (print (next :: others)).toList := by
  simp [print, List.map_cons, String.intercalate_cons_cons]

/-- Tokens each of which is read on its own are read back from what is written of them all. -/
theorem spelling_scan_print {tokens : List Token} (alone : ∀ token ∈ tokens, token.ReadsAlone)
    (offset : Nat) : (scan offset false (print tokens).toList).map spelling = tokens.map spelling := by
  induction tokens generalizing offset with
  | nil =>
      have empty : (print []).toList = [] := rfl
      rw [empty, scan, List.map_nil]
  | cons token others ih =>
      obtain ⟨here, later⟩ := List.forall_mem_cons.1 alone
      cases others with
      | nil =>
          have lexeme := here [] (by simp [BreaksOff])
          have only : (print [token]).toList = token.written.toList ++ [] := by simp [print]
          rw [only, scan_lexeme lexeme, scan]
          simp [spelling]
      | cons next others =>
          have breaks : BreaksOff (' ' :: (print (next :: others)).toList) := by
            rintro c same
            cases same
            rfl
          rw [print_cons_cons, scan_lexeme (here _ breaks), scan_space, List.map_cons, ih later]
          simp [spelling]

/-- Tokens are read back from what is written of them. Printed with single spaces between them, the tokens of
any text are read as tokens of the same kinds that say the same, also if the last one is a string that was
never closed. -/
theorem tokenize_print (text : String) :
    (tokenize (print (tokenize text))).map spelling = (tokenize text).map spelling :=
  spelling_scan_print (scans_scan 0 false text.toList).readsAlone 0

/-- The sign in a difference stays apart from the number behind it, and an open string is written closed. -/
example : print (tokenize "x-1,-1 \"a\"\"") = "x - 1 , -1 \"a\"\"\"" := by decide +kernel

end ScriptBridge.Token
