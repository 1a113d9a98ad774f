import ScriptBridge.Proofs.Token.Lexemes
import ScriptBridge.Proofs.Token.Places
/-!
White space only separates tokens. A lexeme looks at most two characters beyond its end, and never finds
less to stop for in a blank than in what stood there. So blanks put in between two tokens change what the
tokens say in two places only: behind a word, in front of a minus sign that a digit follows, and at the end
of a string that was never closed.
-/

namespace ScriptBridge.Token

/-- What a token says, wherever it stands. -/
def spelling (token : Token) : TokenKind × String :=
  (token.kind, token.text)

/-- A string of which nothing closes what was opened: what is written of it is one quote longer than what
it contains, with the quotes in that doubled. -/
def IsUnclosed (token : Token) : Prop :=
  token.kind = .quoted
    ∧ token.stop = token.start + byteCount ('"' :: token.text.toList.flatMap doubled)

/-- The text begins with a minus sign in front of a digit. -/
def BeginsNegative (cs : List Char) : Prop :=
  ∃ rest, cs = '-' :: rest ∧ startsWithDigit rest = true

/-! ### Lexemes in front of a blank -/

section Lexemes

variable {touchesWord : Bool} {kind : TokenKind} {content piece behind before after more tail : List Char}
  {d : Char}

theorem startsWithDigit_of_gap (blank : Text.isBlank d = true)
    (starts : startsWithDigit (before ++ d :: more) = true) : startsWithDigit (before ++ after) = true := by
  cases before with
  | nil =>
      have digit : d.isDigit = true := starts
      rw [Text.isDigit_of_isBlank blank] at digit
      cases digit
  | cons c before => exact starts

theorem goesOn_of_gap (blank : Text.isBlank d = true) (goes : goesOn (before ++ d :: more) = true) :
    goesOn (before ++ after) = true := by
  cases before with
  | nil =>
      have point : d ≠ '.' := by
        rintro rfl
        cases blank
      simp [goesOn, Text.isWordChar_of_isBlank blank, point] at goes
  | cons c before =>
      exact goesOn_imp (startsWithDigit_of_gap blank) goes

/-- A digit that a word goes on with is itself in the word. -/
theorem startsWithDigit_of_whole (whole : splitWord (tail ++ behind) = (tail, behind))
    (starts : startsWithDigit (tail ++ behind) = true) (other : List Char) :
    startsWithDigit (tail ++ other) = true := by
  cases tail with
  | cons c tail => exact starts
  | nil =>
      have stops := (splitWord_eq_nil_iff behind).1 whole
      cases behind with
      | nil => cases starts
      | cons c behind =>
          rw [goesOn, Text.isWordChar_of_isDigit starts] at stops
          cases stops

theorem whole_of_gap (blank : Text.isBlank d = true)
    (whole : splitWord (tail ++ (before ++ after)) = (tail, before ++ after)) :
    splitWord (tail ++ (before ++ d :: more)) = (tail, before ++ d :: more) := by
  induction tail with
  | nil =>
      have stops : goesOn (before ++ after) = false := (splitWord_eq_nil_iff _).1 whole
      apply (splitWord_eq_nil_iff _).2
      apply Bool.eq_false_iff.2
      intro goes
      exact Bool.eq_false_iff.1 stops (goesOn_of_gap blank goes)
  | cons c tail ih =>
      obtain ⟨taken, others⟩ := (splitWord_cons_eq_iff ..).1 whole
      refine (splitWord_cons_eq_iff ..).2 ⟨?_, ih others⟩
      exact goesOn_imp (fun starts => startsWithDigit_of_whole others starts _) taken

/-- A lexeme stays one if a blank is put somewhere behind it, unless it is a string that is not closed. -/
theorem Lexeme.gap (lexeme : Lexeme touchesWord kind content piece (before ++ after))
    (blank : Text.isBlank d = true) (closes : piece ≠ '"' :: content.flatMap doubled) :
    Lexeme touchesWord kind content piece (before ++ d :: more) := by
  generalize same : before ++ after = behind at lexeme
  cases lexeme with
  | @word c tail _ inked unquoted begins whole =>
      subst same
      refine .word inked unquoted ?_ (whole_of_gap blank whole)
      exact beginsWord_imp (fun starts => startsWithDigit_of_whole whole starts _) begins
  | punct inked unquoted apart =>
      subst same
      refine .punct inked unquoted ?_
      apply Bool.eq_false_iff.2
      intro begins
      exact Bool.eq_false_iff.1 apart (beginsWord_imp (startsWithDigit_of_gap blank) begins)
  | closed ends =>
      subst same
      apply Lexeme.closed
      cases before with
      | nil =>
          rintro quote
          cases Option.some.inj quote
          cases blank
      | cons c before => exact ends
  | unclosed => exact absurd rfl closes

/-- Behind a word a text is read like any other, unless it begins with a minus sign in front of a digit. -/
theorem Lexeme.of_touching (lexeme : Lexeme true kind content piece behind)
    (notNegative : ¬ BeginsNegative (piece ++ behind)) :
    Lexeme false kind content piece behind := by
  cases lexeme with
  | word inked unquoted begins whole =>
      refine .word inked unquoted ?_ whole
      rw [beginsWord, Bool.or_eq_true] at begins ⊢
      exact .inl (begins.resolve_right (by simp))
  | @punct c behind inked unquoted apart =>
      refine .punct inked unquoted ?_
      apply Bool.eq_false_iff.2
      intro begins
      rw [beginsWord, Bool.or_eq_false_iff] at apart
      rw [beginsWord, apart.1, Bool.false_or] at begins
      simp only [Bool.not_false, Bool.and_true, Bool.and_eq_true, decide_eq_true_eq] at begins
      obtain ⟨rfl, starts⟩ := begins
      exact notNegative ⟨behind, rfl, starts⟩
  | closed ends => exact .closed ends
  | unclosed => exact .unclosed

theorem Lexeme.of_unclosed (lexeme : Lexeme touchesWord kind content piece behind)
    (opens : piece = '"' :: content.flatMap doubled) : kind = .quoted ∧ behind = [] := by
  cases lexeme with
  | word inked unquoted begins whole => exact absurd (List.cons.inj opens).1 unquoted
  | punct inked unquoted apart => exact absurd (List.cons.inj opens).1 unquoted
  | closed ends =>
      have same := congrArg List.length (List.cons.inj opens).2
      simp at same
  | unclosed => exact ⟨rfl, rfl⟩

theorem Lexeme.isUnclosed_iff (lexeme : Lexeme touchesWord kind content piece behind) (offset : Nat) :
    IsUnclosed ⟨kind, String.ofList content, offset, offset + byteCount piece⟩
      ↔ piece = '"' :: content.flatMap doubled := by
  simp only [IsUnclosed, String.toList_ofList]
  constructor
  · rintro ⟨isString, size⟩
    cases lexeme with
    | word inked unquoted begins whole => cases isString
    | punct inked unquoted apart => cases isString
    | closed ends =>
        have closing : byteCount ['"'] = 1 := rfl
        rw [← List.cons_append, byteCount_append, closing] at size
        omega
    | unclosed => rfl
  · intro opens
    exact ⟨(lexeme.of_unclosed opens).1, by rw [opens]⟩

end Lexemes

/-! ### Two scans -/

/-- What the tokens of a text say does not depend on where the text begins. -/
theorem spelling_scan (offset other : Nat) (touchesWord : Bool) (cs : List Char) :
    (scan other touchesWord cs).map spelling = (scan offset touchesWord cs).map spelling := by
  have scans := scans_scan offset touchesWord cs
  generalize scan offset touchesWord cs = tokens at scans
  induction scans generalizing other with
  | done => rw [scan]
  | blank blank others ih =>
      rw [scan_blank blank]
      exact ih _
  | lexeme lexeme others ih =>
      rw [scan_lexeme lexeme, List.map_cons, List.map_cons, ih]
      rfl

theorem scan_blanks {blanks : List Char} (blank : ∀ c ∈ blanks, Text.isBlank c = true)
    (nonempty : blanks ≠ []) (offset : Nat) (touchesWord : Bool) (after : List Char) :
    scan offset touchesWord (blanks ++ after) = scan (offset + byteCount blanks) false after := by
  induction blanks generalizing offset touchesWord with
  | nil => exact absurd rfl nonempty
  | cons c rest ih =>
      obtain ⟨here, others⟩ := List.forall_mem_cons.1 blank
      rw [List.cons_append, scan_blank here, byteCount, ← Nat.add_assoc]
      cases rest with
      | nil => rfl
      | cons d rest => exact ih others (List.cons_ne_nil _ _) _ _

/-- A minus sign in front of a digit is read apart behind a word, and as part of the number elsewhere. -/
theorem spelling_ne_of_negative {cs : List Char} (negative : BeginsNegative cs) (offset other : Nat) :
    (scan other false cs).map spelling ≠ (scan offset true cs).map spelling := by
  obtain ⟨rest, rfl, starts⟩ := negative
  have inked : Text.isBlank '-' = false := by decide
  have unquoted : '-' ≠ '"' := by decide
  have outside : Text.isWordChar '-' = false := by decide
  have begins : beginsWord false '-' rest = true := by simp [beginsWord, starts]
  have apart : beginsWord true '-' rest = false := by simp [beginsWord, outside]
  rw [scan_begin inked unquoted begins, scan_mark inked unquoted apart, List.map_cons, List.map_cons]
  intro same
  exact TokenKind.noConfusion (congrArg Prod.fst (List.cons.inj same).1)

/-- What stands behind a word says the same elsewhere, unless it begins with a minus sign in front of a
digit. -/
theorem spelling_scan_apart_iff (offset other : Nat) (touchesWord : Bool) (cs : List Char) :
    (scan other false cs).map spelling = (scan offset touchesWord cs).map spelling
      ↔ ¬ (touchesWord = true ∧ BeginsNegative cs) := by
  cases touchesWord with
  | false => exact iff_of_true (spelling_scan ..) fun both => Bool.false_ne_true both.1
  | true =>
      refine ⟨fun same both => spelling_ne_of_negative both.2 offset other same, ?_⟩
      intro notNegative
      have scans := scans_scan offset true cs
      generalize scan offset true cs = tokens at scans
      cases scans with
      | done => rw [scan]
      | blank blank others =>
          rw [others.eq_scan, scan_blank blank]
          exact spelling_scan ..
      | lexeme lexeme others =>
          have apart := lexeme.of_touching fun negative => notNegative ⟨rfl, negative⟩
          rw [others.eq_scan, scan_lexeme apart, List.map_cons, List.map_cons,
            spelling_scan (offset + byteCount _)]
          rfl

/-! ### A gap in a text -/

/-- At this offset a word ends. -/
def WordEnds (tokens : List Token) (place : Nat) : Prop :=
  ∃ token ∈ tokens, token.kind = .word ∧ token.stop = place

/-- At this offset a string ends that was never closed. -/
def UnclosedEnds (tokens : List Token) (place : Nat) : Prop :=
  ∃ token ∈ tokens, token.IsUnclosed ∧ token.stop = place

/-- The offset is not strictly inside any token. -/
def IsBetween (tokens : List Token) (place : Nat) : Prop :=
  ∀ token ∈ tokens, ¬ (token.start < place ∧ place < token.stop)

section Gaps

variable {offset place : Nat} {touchesWord : Bool} {kind : TokenKind} {token : Token}
  {content piece behind cs before after blanks : List Char} {tokens : List Token}

theorem wordEnds_cons : WordEnds (token :: tokens) place
    ↔ (token.kind = .word ∧ token.stop = place) ∨ WordEnds tokens place := by
  simp [WordEnds]

theorem unclosedEnds_cons : UnclosedEnds (token :: tokens) place
    ↔ (token.IsUnclosed ∧ token.stop = place) ∨ UnclosedEnds tokens place := by
  simp [UnclosedEnds]

theorem byteCount_pos {cs : List Char} (nonempty : cs ≠ []) : 0 < byteCount cs :=
  Nat.pos_of_ne_zero fun empty => nonempty (eq_nil_of_byteCount empty)

theorem Lexeme.ne_nil (lexeme : Lexeme touchesWord kind content piece behind) : piece ≠ [] := by
  cases lexeme with
  | _ => exact List.cons_ne_nil _ _

/-- No token ends where its text begins. -/
theorem Scans.lt_stop (scans : Scans offset touchesWord cs tokens) :
    ∀ token ∈ tokens, offset < token.stop := by
  induction scans with
  | done => exact fun token listed => (List.not_mem_nil listed).elim
  | blank blank others ih =>
      exact fun token listed => Nat.lt_of_le_of_lt (Nat.le_add_right ..) (ih token listed)
  | lexeme lexeme others ih =>
      refine List.forall_mem_cons.2 ⟨Nat.lt_add_of_pos_right (byteCount_pos lexeme.ne_nil), ?_⟩
      exact fun token listed => Nat.lt_of_le_of_lt (Nat.le_add_right ..) (ih token listed)

/-- A piece that is no longer than what stands before a place stands before it. -/
theorem exists_rest (same : piece ++ behind = before ++ after)
    (fits : byteCount piece ≤ byteCount before) :
    ∃ rest, before = piece ++ rest ∧ behind = rest ++ after := by
  rcases List.append_eq_append_iff.1 same with ⟨rest, rfl, rfl⟩ | ⟨surplus, rfl, rfl⟩
  · exact ⟨rest, rfl, rfl⟩
  · rw [byteCount_append] at fits
    obtain rfl := eq_nil_of_byteCount (show byteCount surplus = 0 by omega)
    exact ⟨[], by simp, rfl⟩

theorem flatMap_doubled_of_blank (blank : ∀ c ∈ blanks, Text.isBlank c = true) :
    blanks.flatMap doubled = blanks := by
  induction blanks with
  | nil => rfl
  | cons c rest ih =>
      obtain ⟨here, others⟩ := List.forall_mem_cons.1 blank
      have differs : c ≠ '"' := by
        rintro rfl
        cases here
      rw [List.flatMap_cons, doubled, if_neg differs, ih others, List.singleton_append]

/-- Blanks at the end of a string that is not closed are taken into the string. -/
theorem spelling_ne_of_unclosed (blank : ∀ c ∈ blanks, Text.isBlank c = true) (nonempty : blanks ≠ [])
    (offset : Nat) (touchesWord : Bool) (start stop : Nat) :
    (scan offset touchesWord ('"' :: content.flatMap doubled ++ blanks)).map spelling
      ≠ (⟨.quoted, String.ofList content, start, stop⟩ :: tokens).map spelling := by
  have whole : '"' :: content.flatMap doubled ++ blanks
      = '"' :: (content ++ blanks).flatMap doubled ++ [] := by
    rw [List.flatMap_append, flatMap_doubled_of_blank blank, List.append_nil, List.cons_append]
  rw [whole, scan_lexeme .unclosed, List.map_cons, List.map_cons]
  intro same
  have texts : String.ofList (content ++ blanks) = String.ofList content :=
    congrArg Prod.snd (List.cons.inj same).1
  exact nonempty (List.append_right_eq_self.1 (String.ofList_injective texts))

section Blanks

variable (blank : ∀ c ∈ blanks, Text.isBlank c = true) (nonempty : blanks ≠ [])

include blank nonempty in
theorem Lexeme.before_blanks (lexeme : Lexeme touchesWord kind content piece (before ++ after))
    (closes : piece ≠ '"' :: content.flatMap doubled) :
    Lexeme touchesWord kind content piece (before ++ (blanks ++ after)) := by
  obtain ⟨d, others, rfl⟩ := List.exists_cons_of_ne_nil nonempty
  exact lexeme.gap (blank d List.mem_cons_self) closes

/-- What a gap changes, `touchesWord` telling whether a word ends where the scan begins. -/
def Changes (touchesWord : Bool) (tokens : List Token) (place : Nat) (before after : List Char) : Prop :=
  (((touchesWord = true ∧ before = []) ∨ WordEnds tokens place) ∧ BeginsNegative after)
    ∨ UnclosedEnds tokens place

/-- Where the scan begins no token ends, so what stands there is read behind the word that ends there. -/
theorem changes_front (scans : Scans offset touchesWord cs tokens) :
    Changes touchesWord tokens offset [] after ↔ touchesWord = true ∧ BeginsNegative after := by
  have noWord : ¬ WordEnds tokens offset := by
    rintro ⟨token, listed, -, stops⟩
    exact Nat.ne_of_gt (scans.lt_stop token listed) stops
  have noString : ¬ UnclosedEnds tokens offset := by
    rintro ⟨token, listed, -, stops⟩
    exact Nat.ne_of_gt (scans.lt_stop token listed) stops
  simp [Changes, noWord, noString]

include blank nonempty in
theorem Scans.spelling_front_iff (scans : Scans offset touchesWord after tokens) :
    (scan offset touchesWord (blanks ++ after)).map spelling = tokens.map spelling
      ↔ ¬ Changes touchesWord tokens offset [] after := by
  rw [changes_front scans, scans.eq_scan, scan_blanks blank nonempty]
  exact spelling_scan_apart_iff ..

section FirstToken

variable {rest : List Char} (lexeme : Lexeme touchesWord kind content piece (rest ++ after))

include blank nonempty lexeme in
/-- A string that is not closed takes all that is left, and the blanks with it. -/
theorem Lexeme.spelling_gap_of_unclosed (opens : piece = '"' :: content.flatMap doubled) :
    (scan offset touchesWord (piece ++ rest ++ (blanks ++ after))).map spelling
        ≠ (⟨kind, String.ofList content, offset, offset + byteCount piece⟩ :: tokens).map spelling
      ∧ Changes touchesWord (⟨kind, String.ofList content, offset, offset + byteCount piece⟩ :: tokens)
          (offset + byteCount piece + byteCount rest) (piece ++ rest) after := by
  have isUnclosed := (lexeme.isUnclosed_iff offset).2 opens
  obtain ⟨rfl, ended⟩ := lexeme.of_unclosed opens
  obtain ⟨rfl, rfl⟩ := List.append_eq_nil_iff.1 ended
  constructor
  · rw [List.append_nil, List.append_nil, opens]
    apply spelling_ne_of_unclosed blank nonempty
  · exact .inr (unclosedEnds_cons.2 (.inl ⟨isUnclosed, rfl⟩))

include blank nonempty lexeme in
/-- Any other token stays, and what is behind it is scanned from its end on. -/
theorem Lexeme.spelling_gap_iff (closes : piece ≠ '"' :: content.flatMap doubled)
    (behind : (scan (offset + byteCount piece) (kind = .word) (rest ++ (blanks ++ after))).map spelling
        = tokens.map spelling
      ↔ ¬ Changes (kind = .word) tokens (offset + byteCount piece + byteCount rest) rest after) :
    (scan offset touchesWord (piece ++ rest ++ (blanks ++ after))).map spelling
        = (⟨kind, String.ofList content, offset, offset + byteCount piece⟩ :: tokens).map spelling
      ↔ ¬ Changes touchesWord (⟨kind, String.ofList content, offset, offset + byteCount piece⟩ :: tokens)
          (offset + byteCount piece + byteCount rest) (piece ++ rest) after := by
  have closed := mt (lexeme.isUnclosed_iff offset).1 closes
  have ends : byteCount rest = 0 ↔ rest = [] :=
    ⟨eq_nil_of_byteCount, fun empty => congrArg byteCount empty⟩
  rw [List.append_assoc, scan_lexeme (lexeme.before_blanks blank nonempty closes), List.map_cons,
    List.map_cons, List.cons_eq_cons, behind]
  simp [Changes, wordEnds_cons, unclosedEnds_cons, closed, ends, lexeme.ne_nil, spelling]

end FirstToken

include blank nonempty in
/-- Blanks between two tokens of a scan change what the tokens say just if a word ends there and a negative
number begins, or if a string ends there that was never closed. -/
theorem Scans.spelling_gap_iff (scans : Scans offset touchesWord cs tokens) (here : cs = before ++ after)
    (between : IsBetween tokens (offset + byteCount before)) :
    (scan offset touchesWord (before ++ (blanks ++ after))).map spelling = tokens.map spelling
      ↔ ¬ Changes touchesWord tokens (offset + byteCount before) before after := by
  induction scans generalizing before with
  | done =>
      obtain ⟨rfl, rfl⟩ := List.nil_eq_append_iff.1 here
      exact Scans.done.spelling_front_iff blank nonempty
  | @blank offset touchesWord c rest tokens isBlank others ih =>
      cases before with
      | nil =>
          have here : c :: rest = after := here
          subst here
          exact (Scans.blank isBlank others).spelling_front_iff blank nonempty
      | cons d before =>
          cases here
          have place : offset + byteCount (c :: before) = offset + c.utf8Size + byteCount before :=
            (Nat.add_assoc ..).symm
          rw [place] at between ⊢
          rw [List.cons_append, scan_blank isBlank, ih rfl between]
          simp [Changes]
  | @lexeme offset touchesWord kind content piece behind tokens lexeme others ih =>
      by_cases front : before = []
      · subst front
        have here : piece ++ behind = after := here
        subst here
        exact (Scans.lexeme lexeme others).spelling_front_iff blank nonempty
      · obtain ⟨outside, between⟩ := List.forall_mem_cons.1 between
        have fits : byteCount piece ≤ byteCount before := by
          have size := byteCount_pos front
          simp only at outside
          omega
        obtain ⟨rest, rfl, rfl⟩ := exists_rest here fits
        have place : offset + byteCount (piece ++ rest) = offset + byteCount piece + byteCount rest := by
          rw [byteCount_append, Nat.add_assoc]
        rw [place] at between ⊢
        by_cases opens : piece = '"' :: content.flatMap doubled
        · obtain ⟨differs, changes⟩ := lexeme.spelling_gap_of_unclosed blank nonempty opens
          exact iff_of_false differs (not_not_intro changes)
        · exact lexeme.spelling_gap_iff blank nonempty opens (ih rfl between)

end Blanks

/-- White space only separates tokens. Put in between two tokens of a text, or at one of its ends, blanks
leave what the tokens say as it is, with two exceptions: between a word and a minus sign in front of a
digit, where the word ends and the number begins, and at the end of a string that was never closed. -/
theorem blanks_only_separate (blank : ∀ c ∈ blanks, Text.isBlank c = true)
    (between : IsBetween (tokenize (String.ofList (before ++ after))) (byteCount before)) :
    (tokenize (String.ofList (before ++ blanks ++ after))).map spelling
        = (tokenize (String.ofList (before ++ after))).map spelling
      ↔ blanks = [] ∨ ¬ ((WordEnds (tokenize (String.ofList (before ++ after))) (byteCount before)
            ∧ BeginsNegative after)
          ∨ UnclosedEnds (tokenize (String.ofList (before ++ after))) (byteCount before)) := by
  by_cases empty : blanks = []
  · subst empty
    rw [List.append_nil]
    exact iff_of_true rfl (.inl rfl)
  · have scans := scans_scan 0 false (before ++ after)
    have place : 0 + byteCount before = byteCount before := Nat.zero_add _
    simp only [tokenize, String.toList_ofList] at between ⊢
    have changes := scans.spelling_gap_iff blank empty rfl (by rwa [place])
    rw [place] at changes
    rw [List.append_assoc, changes]
    simp [Changes, empty]

/-- In a difference a blank changes the number behind it, but none that stands behind the sign; and an open
string takes the blank. -/
theorem blanks_in_a_difference :
    (IsBetween (tokenize "x-1") 2 ∧ (tokenize "x- 1").map spelling = (tokenize "x-1").map spelling)
      ∧ (IsBetween (tokenize "x-1") 1 ∧ (tokenize "x -1").map spelling ≠ (tokenize "x-1").map spelling)
      ∧ (IsBetween (tokenize "\"x") 2
        ∧ (tokenize "\"x ").map spelling ≠ (tokenize "\"x").map spelling) := by
  have blank : ∀ c ∈ [' '], Text.isBlank c = true := List.forall_mem_singleton.2 rfl
  have difference : tokenize "x-1" = [⟨.word, "x", 0, 1⟩, ⟨.punct, "-", 1, 2⟩, ⟨.word, "1", 2, 3⟩] := by
    decide +kernel
  have opened : tokenize "\"x" = [⟨.quoted, "x", 0, 2⟩] := by decide +kernel
  have behindSign : IsBetween (tokenize "x-1") 2 := by
    rw [difference]
    simp [IsBetween]
  have behindWord : IsBetween (tokenize "x-1") 1 := by
    rw [difference]
    simp [IsBetween]
  have atEnd : IsBetween (tokenize "\"x") 2 := by
    rw [opened]
    simp [IsBetween]
  refine ⟨⟨behindSign, ?_⟩, ⟨behindWord, ?_⟩, atEnd, ?_⟩
  · apply (@blanks_only_separate ['x', '-'] ['1'] [' '] blank behindSign).2
    refine .inr (not_or.2 ⟨?_, ?_⟩)
    · rintro ⟨-, rest, same, -⟩
      cases same
    · have strings : ¬ UnclosedEnds (tokenize "x-1") 2 := by
        rw [difference]
        simp [UnclosedEnds, IsUnclosed]
      exact strings
  · intro same
    have word : WordEnds (tokenize "x-1") 1 := by
      rw [difference]
      simp [WordEnds]
    rcases (@blanks_only_separate ['x'] ['-', '1'] [' '] blank behindWord).1 same with empty | unchanged
    · cases empty
    · exact unchanged (.inl ⟨word, ['1'], rfl, rfl⟩)
  · intro same
    have string : UnclosedEnds (tokenize "\"x") 2 := by
      rw [opened]
      exact ⟨_, List.mem_singleton_self _, ⟨rfl, rfl⟩, rfl⟩
    rcases (@blanks_only_separate ['"', 'x'] [] [' '] blank atEnd).1 same with empty | unchanged
    · cases empty
    · exact unchanged (.inr string)

end Gaps

end ScriptBridge.Token
