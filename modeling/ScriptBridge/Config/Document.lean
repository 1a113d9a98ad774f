import ScriptBridge.Text.Quoted
/-!
Documents of settings: the TOML documents whose keys are plain and whose values are whole numbers, truth
values and strings. Everything else that TOML knows, such as tables, lists and fractions, is no setting,
and a document with any of it is not read. Whole numbers have 64 bits with sign, and one beyond them can
neither be read nor be written.
-/

namespace ScriptBridge.Config

/-- The value of a setting. -/
inductive Scalar where
  | integer (value : Int)
  | boolean (value : Bool)
  | text (value : String)
deriving DecidableEq, Repr

/-- What a reader took from the front of a text, and the rest; none if the text does not begin with
it. -/
abbrev Reader (α : Type) := List Char → Option (α × List Char)

namespace Scalar

/-- Whether a character separates within a line. -/
def isSpace (c : Char) : Bool :=
  c = ' ' || c = '\t'

/-- Drops the separating characters in front. -/
def skipSpace (cs : List Char) : List Char :=
  cs.dropWhile isSpace

/-- Whether a character may stand in comments and strings as it is. -/
def isPlain (c : Char) : Bool :=
  c = '\t' || (32 ≤ c.toNat && c.toNat ≠ 127)

/-- The character with this code, if there is one. -/
def charOf? (code : Nat) : Option Char :=
  if h : code.isValidChar then some (Char.ofNatAux code h) else none

/-- The number that digits in base sixteen stand for. -/
def hexNumber? (digits : List Char) : Option Nat :=
  digits.foldlM (fun n c => (Text.hexValue? c).map (n * 16 + ·)) 0

/-- The character that stands behind a backslash under a single letter. -/
def escaped? : Char → Option Char
  | 'b' => some '\x08'
  | 't' => some '\t'
  | 'n' => some '\n'
  | 'f' => some '\x0c'
  | 'r' => some '\r'
  | '"' => some '"'
  | '\\' => some '\\'
  | _ => none

/-- Puts a character in front of what was read. -/
def putFront (c : Char) (read : List Char × List Char) : List Char × List Char :=
  (c :: read.1, read.2)

/-- Reads a string between double quotes, behind the first one. -/
def readBasic : Reader (List Char)
  | '"' :: rest => some ([], rest)
  | '\\' :: 'u' :: a :: b :: c :: d :: rest => do
    let code ← hexNumber? [a, b, c, d]
    let read ← readBasic rest
    pure (putFront (← charOf? code) read)
  | '\\' :: 'U' :: a :: b :: c :: d :: e :: f :: g :: h :: rest => do
    let code ← hexNumber? [a, b, c, d, e, f, g, h]
    let read ← readBasic rest
    pure (putFront (← charOf? code) read)
  | '\\' :: c :: rest => do
    let c ← escaped? c
    let read ← readBasic rest
    pure (putFront c read)
  | c :: rest =>
    if c ≠ '\\' && isPlain c then (readBasic rest).map (putFront c) else none
  | [] => none

/-- Reads a string between single quotes, behind the first one. -/
def readLiteral : Reader (List Char)
  | '\'' :: rest => some ([], rest)
  | c :: rest => if isPlain c then (readLiteral rest).map (putFront c) else none
  | [] => none

/-- How far a string of several lines has got: it stands in its text, behind a backslash at the end of a
line, or in the blanks that follow that line. -/
inductive Folding where
  | none
  | begun
  | blanks
deriving DecidableEq, Repr

/-- Reads a string between triple double quotes, behind the first three. Up to two more quotes may stand
in front of the last three. A backslash at the end of a line joins it with the next text. -/
def readLongBasic : Folding → Reader (List Char)
  | .begun, '\r' :: '\n' :: rest => readLongBasic .blanks rest
  | .begun, c :: rest =>
    if c = '\n' then readLongBasic .blanks rest
    else if isSpace c then readLongBasic .begun rest
    else none
  | .blanks, '\r' :: '\n' :: rest => readLongBasic .blanks rest
  | _, '"' :: '"' :: '"' :: '"' :: '"' :: rest => some (['"', '"'], rest)
  | _, '"' :: '"' :: '"' :: '"' :: rest => some (['"'], rest)
  | _, '"' :: '"' :: '"' :: rest => some ([], rest)
  | _, '\r' :: '\n' :: rest => (readLongBasic .none rest).map (putFront '\n')
  | _, '\\' :: 'u' :: a :: b :: c :: d :: rest => do
    let code ← hexNumber? [a, b, c, d]
    let read ← readLongBasic .none rest
    pure (putFront (← charOf? code) read)
  | _, '\\' :: 'U' :: a :: b :: c :: d :: e :: f :: g :: h :: rest => do
    let code ← hexNumber? [a, b, c, d, e, f, g, h]
    let read ← readLongBasic .none rest
    pure (putFront (← charOf? code) read)
  | _, '\\' :: c :: rest =>
    match escaped? c with
    | some c => (readLongBasic .none rest).map (putFront c)
    | none => readLongBasic .begun (c :: rest)
  | folding, c :: rest =>
    if folding = .blanks && (c = '\n' || isSpace c) then readLongBasic .blanks rest
    else if c = '\n' || (c ≠ '\\' && isPlain c) then (readLongBasic .none rest).map (putFront c)
    else none
  | _, [] => none

/-- Reads a string between triple single quotes, behind the first three. -/
def readLongLiteral : Reader (List Char)
  | '\'' :: '\'' :: '\'' :: '\'' :: '\'' :: rest => some (['\'', '\''], rest)
  | '\'' :: '\'' :: '\'' :: '\'' :: rest => some (['\''], rest)
  | '\'' :: '\'' :: '\'' :: rest => some ([], rest)
  | '\r' :: '\n' :: rest => (readLongLiteral rest).map (putFront '\n')
  | c :: rest => if c = '\n' || isPlain c then (readLongLiteral rest).map (putFront c) else none
  | [] => none

/-- Drops a line end that stands right behind the opening quotes of a long string. -/
def skipFirstLineEnd : List Char → List Char
  | '\n' :: rest => rest
  | '\r' :: '\n' :: rest => rest
  | cs => cs

/-- Reads digits, of which there must be one at least; single underscores may stand between them. -/
def readDigits (isDigit : Char → Bool) : Reader (List Char)
  | c :: rest =>
    if isDigit c then
      match rest with
      | '_' :: d :: more =>
        if isDigit d then (readDigits isDigit (d :: more)).map (putFront c) else some ([c], rest)
      | d :: more =>
        if isDigit d then (readDigits isDigit (d :: more)).map (putFront c) else some ([c], rest)
      | [] => some ([c], [])
    else none
  | [] => none

/-- The number that digits in a base stand for. -/
def numberOf (base : Nat) (digits : List Char) : Nat :=
  digits.foldl (fun n c => n * base + (Text.hexValue? c).getD 0) 0

/-- Reads a number in a base, behind the mark of that base. -/
def readBased (base : Nat) (cs : List Char) : Option (Scalar × List Char) :=
  (readDigits (fun c => (Text.hexValue? c).any (· < base)) cs).map fun (digits, rest) =>
    (.integer (numberOf base digits), rest)

/-- Reads the digits of a number in base ten, which have no zero in front. -/
def readDecimal : Reader Nat
  | '0' :: rest => some (0, rest)
  | cs => (readDigits Char.isDigit cs).map fun (digits, rest) => (numberOf 10 digits, rest)

/-- Reads a whole number of 64 bits with sign. -/
def readInteger (cs : List Char) : Option (Scalar × List Char) := do
  let (value, rest) ←
    match cs with
    | '0' :: 'x' :: rest => readBased 16 rest
    | '0' :: 'o' :: rest => readBased 8 rest
    | '0' :: 'b' :: rest => readBased 2 rest
    | '+' :: rest => (readDecimal rest).map fun (n, rest) => (.integer n, rest)
    | '-' :: rest => (readDecimal rest).map fun (n, rest) => (.integer (-n), rest)
    | cs => (readDecimal cs).map fun (n, rest) => (.integer n, rest)
  match value with
  | .integer n =>
    if Int64.minValue.toInt ≤ n ∧ n ≤ Int64.maxValue.toInt then pure (value, rest) else none
  | _ => pure (value, rest)

/-- What was read as a string. -/
def ofText (read : List Char × List Char) : Scalar × List Char :=
  (.text (String.ofList read.1), read.2)

/-- Reads a value. -/
def read : Reader Scalar
  | '"' :: '"' :: '"' :: rest => (readLongBasic .none (skipFirstLineEnd rest)).map ofText
  | '\'' :: '\'' :: '\'' :: rest => (readLongLiteral (skipFirstLineEnd rest)).map ofText
  | '"' :: rest => (readBasic rest).map ofText
  | '\'' :: rest => (readLiteral rest).map ofText
  | 't' :: 'r' :: 'u' :: 'e' :: rest => some (.boolean true, rest)
  | 'f' :: 'a' :: 'l' :: 's' :: 'e' :: rest => some (.boolean false, rest)
  | cs => readInteger cs

end Scalar

open Scalar

/-- Settings in the order of their lines. -/
abbrev Document := List (String × Scalar)

namespace Document

/-- Whether a character may stand in a key without quotes. -/
def isBare (c : Char) : Bool :=
  c.isAlphanum || c = '_' || c = '-'

/-- Reads a key. -/
def readKey : Reader String
  | '"' :: rest => (readBasic rest).map fun (key, rest) => (String.ofList key, rest)
  | '\'' :: rest => (readLiteral rest).map fun (key, rest) => (String.ofList key, rest)
  | cs =>
    let key := cs.takeWhile isBare
    if key.isEmpty then none else some (String.ofList key, cs.dropWhile isBare)

/-- Drops a comment, if there is one. -/
def skipComment : List Char → List Char
  | '#' :: rest => rest.dropWhile isPlain
  | cs => cs

/-- Takes the end of a line, in front of which blanks and a comment may stand. -/
def endLine? (cs : List Char) : Option (List Char) :=
  match skipComment (skipSpace cs) with
  | [] => some []
  | '\n' :: rest => some rest
  | '\r' :: '\n' :: rest => some rest
  | _ => none

/-- Reads one line with a setting. -/
def readSetting (cs : List Char) : Option ((String × Scalar) × List Char) := do
  let (key, rest) ← readKey (skipSpace cs)
  match skipSpace rest with
  | '=' :: rest =>
    let (value, rest) ← Scalar.read (skipSpace rest)
    let rest ← endLine? rest
    pure ((key, value), rest)
  | _ => none

/-- Reads lines one after the other; each takes a character at least, so the length of the text is fuel
enough. -/
def readLines : Nat → List Char → Option Document
  | _, [] => some []
  | 0, _ => none
  | fuel + 1, cs =>
    match endLine? cs with
    | some rest => readLines fuel rest
    | none => do
      let (setting, rest) ← readSetting cs
      let settings ← readLines fuel rest
      pure (setting :: settings)

/-- Reads a document; a byte order mark may stand in front. -/
def read? (source : String) : Option Document :=
  let cs := source.toList
  let cs := if cs.head? = some '\uFEFF' then cs.tail else cs
  readLines cs.length cs

end Document

/-! ### Writing -/

/-- Why a document is not written: a whole number of some type is out of range. -/
inductive WriteError where
  | outOfRange (type : String)
deriving DecidableEq, Repr

namespace WriteError

/-- The diagnostic text of an error in writing. -/
def debugText : WriteError → String
  | .outOfRange type => "OutOfRange(Some(" ++ Text.quoted type ++ "))"

/-- The message of the panic that the error becomes where writing is taken to succeed. -/
def message (error : WriteError) : String :=
  "called `Result::unwrap()` on an `Err` value: " ++ error.debugText

end WriteError

namespace Scalar

/-- A character within a string between double quotes. -/
def writeChar (c : Char) : List Char :=
  if c = '"' || c = '\\' then ['\\', c]
  else if isPlain c then [c]
  else '\\' :: 'u' :: Text.paddedHexDigits 4 c.toNat

/-- A string between double quotes. -/
def writeText (text : String) : String :=
  String.ofList ('"' :: text.toList.flatMap writeChar ++ ['"'])

/-- Writes a value. Beyond the range are only words of 64 bits without sign. -/
def write : Scalar → Except WriteError String
  | .integer value =>
    if Int64.minValue.toInt ≤ value ∧ value ≤ Int64.maxValue.toInt then .ok (toString value)
    else .error (.outOfRange "u64")
  | .boolean value => .ok (toString value)
  | .text value => .ok (writeText value)

end Scalar

namespace Document

/-- A way to write documents. -/
abbrev Writer := Document → Except WriteError String

/-- Writes a document, one setting a line. -/
def write : Writer
  | [] => .ok ""
  | (name, value) :: rest => do
    let written ← value.write
    let others ← write rest
    pure (name ++ " = " ++ written ++ "\n" ++ others)

end Document

end ScriptBridge.Config
