import ScriptBridge.Text.Alphanumeric
import ScriptBridge.Text.Blank
import ScriptBridge.Text.Case
/-!
Tokens of script text. White space only separates tokens. A token is a word (letters, digits,
underscores, and points in front of a digit, or a number with a minus sign), a string between double
quotes, or any other single character. `tokenize` scans from left to right; each token knows the byte
offsets of what it was read from.
-/

namespace ScriptBridge

/-- What a token is. -/
inductive TokenKind where
  | word
  | quoted
  | punct
deriving DecidableEq, Repr, Inhabited

/-- The name of a kind of tokens. -/
def TokenKind.name : TokenKind → String
  | .word => "word"
  | .quoted => "quoted"
  | .punct => "punct"

/-- A token with the byte offsets between which it stands. The text of a quoted token is what the
string stands for. -/
structure Token where
  kind : TokenKind
  text : String
  start : Nat
  stop : Nat
deriving DecidableEq, Repr, Inhabited

/-- Whether the token is the literal, up to the case of ASCII letters; a string is no literal. -/
def Token.isLiteral (token : Token) (literal : String) : Bool :=
  token.kind ≠ .quoted && Text.sameIgnoringCase token.text literal

namespace Token

/-- The number of bytes that the characters take. -/
def byteCount : List Char → Nat
  | [] => 0
  | c :: rest => c.utf8Size + byteCount rest

/-- Whether the text begins with an ASCII digit. -/
def startsWithDigit : List Char → Bool
  | [] => false
  | c :: _ => c.isDigit

/-- What is left of a word at the front of the text, and what follows it. A point belongs to the word
if a digit follows. -/
def splitWord : List Char → List Char × List Char
  | [] => ([], [])
  | c :: rest =>
    if Text.isWordChar c || (c = '.' && startsWithDigit rest) then
      (c :: (splitWord rest).1, (splitWord rest).2)
    else ([], c :: rest)

/-- A string read up to its end. -/
structure StringBody where
  /-- What the string stands for. -/
  content : List Char
  /-- The characters taken, with the closing quote. -/
  taken : List Char
  /-- What follows. -/
  rest : List Char

/-- Reads a string behind its opening quote. Two quotes stand for one; a string that is never closed
goes on to the end of the text. -/
def splitString : List Char → StringBody
  | [] => ⟨[], [], []⟩
  | '"' :: '"' :: rest =>
    let body := splitString rest
    ⟨'"' :: body.content, '"' :: '"' :: body.taken, body.rest⟩
  | c :: rest =>
    if c = '"' then ⟨[], ['"'], rest⟩
    else
      let body := splitString rest
      ⟨c :: body.content, c :: body.taken, body.rest⟩

theorem splitWord_append (cs : List Char) : (splitWord cs).1 ++ (splitWord cs).2 = cs := by
  induction cs with
  | nil => rfl
  | cons c rest ih =>
    unfold splitWord
    split <;> simp [ih]

theorem splitString_append (cs : List Char) : (splitString cs).taken ++ (splitString cs).rest = cs := by
  fun_induction splitString cs with
  | case1 => rfl
  | case2 rest body ih => simpa using ih
  | case3 => rfl
  | case4 c rest _ h body ih => simpa using ih

theorem length_splitWord_rest_le (cs : List Char) : (splitWord cs).2.length ≤ cs.length := by
  have h := congrArg List.length (splitWord_append cs)
  simp only [List.length_append] at h
  omega

theorem length_splitString_rest_le (cs : List Char) :
    (splitString cs).rest.length ≤ cs.length := by
  have h := congrArg List.length (splitString_append cs)
  simp only [List.length_append] at h
  omega

/-- Scans a text that begins at byte `offset`; `touchesWord` says that a word ends right there, so
that a minus sign cannot begin a number. -/
def scan (offset : Nat) (touchesWord : Bool) (cs : List Char) : List Token :=
  match cs with
  | [] => []
  | c :: rest =>
    if Text.isBlank c then scan (offset + c.utf8Size) false rest
    else if c = '"' then
      let body := splitString rest
      let stop := offset + 1 + byteCount body.taken
      ⟨.quoted, String.ofList body.content, offset, stop⟩ :: scan stop false body.rest
    else if Text.isWordChar c || (c = '-' && !touchesWord && startsWithDigit rest) then
      let tail := (splitWord rest).1
      let stop := offset + c.utf8Size + byteCount tail
      ⟨.word, String.ofList (c :: tail), offset, stop⟩ :: scan stop true (splitWord rest).2
    else
      ⟨.punct, c.toString, offset, offset + c.utf8Size⟩ :: scan (offset + c.utf8Size) false rest
termination_by cs.length
decreasing_by
  · simp
  · have := length_splitString_rest_le rest
    simp only [List.length_cons]
    omega
  · have := length_splitWord_rest_le rest
    simp only [List.length_cons]
    omega
  · simp

/-- The tokens of a text. -/
def tokenize (text : String) : List Token :=
  scan 0 false text.toList

end Token

end ScriptBridge
