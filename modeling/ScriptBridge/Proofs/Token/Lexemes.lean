import ScriptBridge.Proofs.Token.Quotation
/-!
What a scan takes for one token. A piece in front of a text is a lexeme if the scan takes just that piece,
given what stands behind it: a word goes on as long as it can, a string up to the quote that closes it, or
to the end. A scan then is a sequence of lexemes with white space between them, and nothing else.
-/

namespace ScriptBridge

namespace Text

theorem isWordChar_of_isDigit {c : Char} (digit : c.isDigit = true) : isWordChar c = true := by
  have ascii : c.toNat < 128 := by
    simp only [Char.isDigit, ge_iff_le, Bool.and_eq_true, decide_eq_true_eq] at digit
    exact Nat.lt_of_le_of_lt (UInt32.le_iff_toNat_le.1 digit.2) (by decide)
  rw [isWordChar, isAlphanumeric, if_pos ascii, Char.isAlphanum, digit, Bool.or_true, Bool.true_or]

/-- White space stands in no word. -/
theorem isWordChar_of_isBlank {c : Char} (blank : isBlank c = true) : isWordChar c = false :=
  forall_blank (P := fun c => isWordChar c = false) (by decide +kernel) blank

theorem isDigit_of_isBlank {c : Char} (blank : isBlank c = true) : c.isDigit = false :=
  forall_blank (P := fun c => c.isDigit = false) (by decide) blank

end Text

namespace Token

/-! ### The pieces of a text -/

/-- A string that is never closed is read to the end of the text. -/
theorem splitString_open (content : List Char) :
    splitString (content.flatMap doubled) = ⟨content, content.flatMap doubled, []⟩ := by
  induction content with
  | nil => rfl
  | cons c content ih =>
      by_cases quote : c = '"'
      · subst quote
        simp [doubled, splitString, ih]
      · simp [doubled, quote, splitString, ih]

/-- What is read of a string has its quotes doubled. It ends with a quote that no other follows, or where
the text ends. -/
theorem splitString_cases (cs : List Char) :
    ((splitString cs).taken = (splitString cs).content.flatMap doubled ++ ['"']
        ∧ (splitString cs).rest.head? ≠ some '"')
      ∨ ((splitString cs).taken = (splitString cs).content.flatMap doubled
        ∧ (splitString cs).rest = []) := by
  fun_induction splitString cs with
  | case1 => exact .inr ⟨rfl, rfl⟩
  | case2 rest body ih => simpa [doubled] using ih
  | case3 rest apart =>
      refine .inl ⟨rfl, fun quote => ?_⟩
      obtain ⟨others, rfl⟩ := List.head?_eq_some_iff.1 quote
      exact apart others rfl rfl
  | case4 c rest apart differs body ih => simpa [doubled, differs] using ih

/-- The text goes on with a word if the scan takes its first character into the word in front of it. -/
def goesOn : List Char → Bool
  | [] => false
  | c :: rest => Text.isWordChar c || (c = '.' && startsWithDigit rest)

theorem splitWord_eq_nil_iff (cs : List Char) : splitWord cs = ([], cs) ↔ goesOn cs = false := by
  cases cs with
  | nil => exact iff_of_true rfl rfl
  | cons c rest =>
      rw [splitWord, goesOn]
      split
      · next inWord =>
          rw [inWord]
          exact iff_of_false (fun same => List.cons_ne_nil _ _ (Prod.mk.inj same).1) (by decide)
      · next outside => exact iff_of_true rfl (by simpa using outside)

theorem splitWord_cons_eq_iff (c : Char) (tail rest behind : List Char) :
    splitWord (c :: rest) = (c :: tail, behind)
      ↔ goesOn (c :: rest) = true ∧ splitWord rest = (tail, behind) := by
  rw [splitWord, goesOn]
  split
  · next inWord => simp [inWord, Prod.ext_iff]
  · next outside => simp [outside]

/-- Whether the scan begins a word at this character. A minus sign begins one in front of a digit, unless a
word ends right there. -/
def beginsWord (touchesWord : Bool) (c : Char) (rest : List Char) : Bool :=
  Text.isWordChar c || (c = '-' && !touchesWord && startsWithDigit rest)

/-- What decides about a character apart from itself is whether a digit follows. -/
theorem goesOn_imp {c : Char} {rest other : List Char}
    (starts : startsWithDigit rest = true → startsWithDigit other = true)
    (goes : goesOn (c :: rest) = true) : goesOn (c :: other) = true := by
  rw [goesOn, Bool.or_eq_true, Bool.and_eq_true] at goes ⊢
  exact goes.imp_right (And.imp_right starts)

theorem beginsWord_imp {touchesWord : Bool} {c : Char} {rest other : List Char}
    (starts : startsWithDigit rest = true → startsWithDigit other = true)
    (begins : beginsWord touchesWord c rest = true) : beginsWord touchesWord c other = true := by
  rw [beginsWord, Bool.or_eq_true, Bool.and_eq_true] at begins ⊢
  exact begins.imp_right (And.imp_right starts)

section Scanning

variable {c : Char} {touchesWord : Bool} {rest : List Char}

theorem scan_blank (blank : Text.isBlank c = true) (offset : Nat) (touchesWord : Bool)
    (rest : List Char) :
    scan offset touchesWord (c :: rest) = scan (offset + c.utf8Size) false rest := by
  rw [scan, if_pos blank]

theorem scan_quote (offset : Nat) (touchesWord : Bool) (rest : List Char) :
    scan offset touchesWord ('"' :: rest)
      = ⟨.quoted, String.ofList (splitString rest).content, offset,
          offset + byteCount ('"' :: (splitString rest).taken)⟩
        :: scan (offset + byteCount ('"' :: (splitString rest).taken)) false (splitString rest).rest := by
  have size : offset + byteCount ('"' :: (splitString rest).taken)
      = offset + 1 + byteCount (splitString rest).taken := (Nat.add_assoc ..).symm
  have inked : ¬ Text.isBlank '"' = true := by decide
  rw [scan, if_neg inked, if_pos rfl, size]

theorem scan_begin (inked : Text.isBlank c = false) (unquoted : c ≠ '"')
    (begins : beginsWord touchesWord c rest = true) (offset : Nat) :
    scan offset touchesWord (c :: rest)
      = ⟨.word, String.ofList (c :: (splitWord rest).1), offset,
          offset + byteCount (c :: (splitWord rest).1)⟩
        :: scan (offset + byteCount (c :: (splitWord rest).1)) true (splitWord rest).2 := by
  have size : offset + byteCount (c :: (splitWord rest).1)
      = offset + c.utf8Size + byteCount (splitWord rest).1 := (Nat.add_assoc ..).symm
  rw [beginsWord] at begins
  rw [scan, inked, if_neg Bool.false_ne_true, if_neg unquoted, if_pos begins, size]

theorem scan_mark (inked : Text.isBlank c = false) (unquoted : c ≠ '"')
    (apart : beginsWord touchesWord c rest = false) (offset : Nat) :
    scan offset touchesWord (c :: rest)
      = ⟨.punct, String.ofList [c], offset, offset + byteCount [c]⟩
        :: scan (offset + byteCount [c]) false rest := by
  rw [beginsWord] at apart
  rw [scan, inked, if_neg Bool.false_ne_true, if_neg unquoted, apart, if_neg Bool.false_ne_true]
  rfl

end Scanning

/-- With this text behind it, the piece is read as one token of this kind that stands for this content. -/
inductive Lexeme (touchesWord : Bool) :
    TokenKind → (content piece behind : List Char) → Prop where
  | word {c : Char} {tail behind : List Char} (inked : Text.isBlank c = false) (unquoted : c ≠ '"')
      (begins : beginsWord touchesWord c (tail ++ behind) = true)
      (whole : splitWord (tail ++ behind) = (tail, behind)) :
      Lexeme touchesWord .word (c :: tail) (c :: tail) behind
  | punct {c : Char} {behind : List Char} (inked : Text.isBlank c = false) (unquoted : c ≠ '"')
      (apart : beginsWord touchesWord c behind = false) :
      Lexeme touchesWord .punct [c] [c] behind
  | closed {content behind : List Char} (ends : behind.head? ≠ some '"') :
      Lexeme touchesWord .quoted content ('"' :: (content.flatMap doubled ++ ['"'])) behind
  | unclosed {content : List Char} :
      Lexeme touchesWord .quoted content ('"' :: content.flatMap doubled) []

variable {touchesWord : Bool} {kind : TokenKind} {content piece behind : List Char}

/-- A lexeme becomes one token, and the scan goes on behind it. -/
theorem scan_lexeme (lexeme : Lexeme touchesWord kind content piece behind) (offset : Nat) :
    scan offset touchesWord (piece ++ behind)
      = ⟨kind, String.ofList content, offset, offset + byteCount piece⟩
        :: scan (offset + byteCount piece) (kind = .word) behind := by
  cases lexeme with
  | word inked unquoted begins whole =>
      rw [List.cons_append, scan_begin inked unquoted begins, whole]
      rfl
  | punct inked unquoted apart => exact scan_mark inked unquoted apart offset
  | closed ends =>
      rw [List.cons_append, List.append_assoc, List.singleton_append, scan_quote,
        splitString_doubled _ ends]
      rfl
  | unclosed =>
      rw [List.append_nil, scan_quote, splitString_open]
      rfl

/-- What is read of a string, with its opening quote, is a lexeme. -/
theorem lexeme_string (touchesWord : Bool) (rest : List Char) :
    Lexeme touchesWord .quoted (splitString rest).content ('"' :: (splitString rest).taken)
      (splitString rest).rest := by
  rcases splitString_cases rest with ⟨taken, ends⟩ | ⟨taken, atEnd⟩
  · rw [taken]
    exact .closed ends
  · rw [taken, atEnd]
    exact .unclosed

/-- How a scan goes through a text: it passes over white space, and takes one lexeme after the other. -/
inductive Scans : Nat → Bool → List Char → List Token → Prop where
  | done {offset : Nat} {touchesWord : Bool} : Scans offset touchesWord [] []
  | blank {offset : Nat} {touchesWord : Bool} {c : Char} {rest : List Char} {tokens : List Token}
      (blank : Text.isBlank c = true) (others : Scans (offset + c.utf8Size) false rest tokens) :
      Scans offset touchesWord (c :: rest) tokens
  | lexeme {offset : Nat} {touchesWord : Bool} {kind : TokenKind} {content piece behind : List Char}
      {tokens : List Token} (lexeme : Lexeme touchesWord kind content piece behind)
      (others : Scans (offset + byteCount piece) (kind = .word) behind tokens) :
      Scans offset touchesWord (piece ++ behind)
        (⟨kind, String.ofList content, offset, offset + byteCount piece⟩ :: tokens)

theorem scans_scan (offset : Nat) (touchesWord : Bool) (cs : List Char) :
    Scans offset touchesWord cs (scan offset touchesWord cs) := by
  induction offset, touchesWord, cs using scan.induct with
  | case1 offset touchesWord =>
      rw [scan]
      exact .done
  | case2 offset touchesWord c rest blank ih =>
      rw [scan, if_pos blank]
      exact .blank blank ih
  | case3 offset touchesWord rest body stop inked ih =>
      have same : stop = offset + byteCount ('"' :: body.taken) := Nat.add_assoc ..
      rw [same] at ih
      rw [scan_quote]
      have front := Scans.lexeme (lexeme_string touchesWord rest) ih
      rwa [List.cons_append, splitString_append] at front
  | case4 offset touchesWord c rest inked unquoted begins tail stop ih =>
      have same : stop = offset + byteCount (c :: tail) := Nat.add_assoc ..
      have inked : Text.isBlank c = false := by simpa using inked
      have whole : splitWord ((splitWord rest).1 ++ (splitWord rest).2) = splitWord rest := by
        rw [splitWord_append]
      rw [same] at ih
      rw [scan_begin inked unquoted begins]
      have front := Scans.lexeme (.word inked unquoted (by rwa [splitWord_append]) whole) ih
      rwa [List.cons_append, splitWord_append] at front
  | case5 offset touchesWord c rest inked unquoted apart ih =>
      have inked : Text.isBlank c = false := by simpa using inked
      have apart : beginsWord touchesWord c rest = false := by simpa [beginsWord] using apart
      rw [scan_mark inked unquoted apart]
      exact .lexeme (.punct inked unquoted apart) ih

theorem Scans.eq_scan {offset : Nat} {cs : List Char} {tokens : List Token}
    (scans : Scans offset touchesWord cs tokens) : tokens = scan offset touchesWord cs := by
  induction scans with
  | done => rw [scan]
  | blank blank others ih => rw [ih, scan_blank blank]
  | lexeme lexeme others ih => rw [ih, scan_lexeme lexeme]

end Token

end ScriptBridge
