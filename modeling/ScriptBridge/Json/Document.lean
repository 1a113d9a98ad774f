import ScriptBridge.Text.Basic
/-!
Documents in JSON as far as reading needs them. Numbers keep their digits, so that whoever reads one
decides what it is; a string or a name whose escapes name no character is kept as unreadable, since a
reader may pass over it.
-/

namespace ScriptBridge.Json

/-- A number as written: its sign, whole digits, decimal places and exponent. -/
structure Numeral where
  negative : Bool
  whole : List Char
  places : List Char
  exponent : Option (Bool × List Char)
deriving DecidableEq, Repr

/-- A document. -/
inductive Document where
  | null
  | boolean (value : Bool)
  | number (value : Numeral)
  | string (value : Option String)
  | array (items : List Document)
  | object (members : List (Option String × Document))

/-- Whether a character only separates tokens. -/
def isSpace (c : Char) : Bool :=
  c = ' ' || c = '\n' || c = '\t' || c = '\r'

/-- Drops the separating characters in front. -/
def skipSpace (cs : List Char) : List Char :=
  cs.dropWhile isSpace

/-- The value of four digits in base sixteen. -/
def hexValue4? (a b c d : Char) : Option Nat := do
  pure (((← Text.hexValue? a) * 16 + (← Text.hexValue? b)) * 256
    + (← Text.hexValue? c) * 16 + (← Text.hexValue? d))

/-- What stands between the quotes of a string: plain characters and numbered code units, which name
a character alone or, beyond the first plane, in pairs. -/
inductive Piece where
  | plain (c : Char)
  | unit (value : Nat)
deriving DecidableEq, Repr

/-- The characters that a single letter names after a backslash. -/
def shortEscape? : Char → Option Char
  | '"' => some '"'
  | '\\' => some '\\'
  | '/' => some '/'
  | 'b' => some '\x08'
  | 'f' => some '\x0c'
  | 'n' => some '\n'
  | 'r' => some '\r'
  | 't' => some '\t'
  | _ => none

/-- Reads up to the closing quote. Control characters must be escaped. -/
def readPieces : List Char → Option (List Piece × List Char)
  | [] => none
  | '"' :: rest => some ([], rest)
  | '\\' :: 'u' :: a :: b :: c :: d :: rest => do
    let value ← hexValue4? a b c d
    let (pieces, after) ← readPieces rest
    pure (.unit value :: pieces, after)
  | '\\' :: letter :: rest => do
    let c ← shortEscape? letter
    let (pieces, after) ← readPieces rest
    pure (.plain c :: pieces, after)
  | c :: rest =>
    if c.toNat < 32 || c = '\\' then none
    else do
      let (pieces, after) ← readPieces rest
      pure (.plain c :: pieces, after)

/-- Joins code units into characters; a half of a pair that stands alone has no character. -/
def joinPieces : List Piece → Option (List Char)
  | [] => some []
  | .plain c :: rest => (joinPieces rest).map (c :: ·)
  | [.unit value] =>
    if 0xD800 ≤ value && value ≤ 0xDFFF then none else some [Char.ofNat value]
  | .unit high :: .unit low :: rest =>
    if 0xD800 ≤ high && high ≤ 0xDBFF then
      if 0xDC00 ≤ low && low ≤ 0xDFFF then
        (joinPieces rest).map
          (Char.ofNat (0x10000 + (high - 0xD800) * 1024 + (low - 0xDC00)) :: ·)
      else none
    else if 0xDC00 ≤ high && high ≤ 0xDFFF then none
    else (joinPieces (.unit low :: rest)).map (Char.ofNat high :: ·)
  | .unit value :: rest =>
    if 0xD800 ≤ value && value ≤ 0xDFFF then none
    else (joinPieces rest).map (Char.ofNat value :: ·)

/-- Reads the sign of a number. -/
def readSign : List Char → Bool × List Char
  | '-' :: rest => (true, rest)
  | cs => (false, cs)

/-- Reads the digits in front, at least one. -/
def readDigits (cs : List Char) : Option (List Char × List Char) :=
  if (cs.takeWhile Char.isDigit).isEmpty then none
  else some (cs.takeWhile Char.isDigit, cs.dropWhile Char.isDigit)

/-- Reads the whole digits of a number: no leading zeros. -/
def readWhole : List Char → Option (List Char × List Char)
  | '0' :: rest => if (rest.takeWhile Char.isDigit).isEmpty then some (['0'], rest) else none
  | cs => readDigits cs

/-- Reads the decimal places of a number, if there is a point. -/
def readPlaces : List Char → Option (List Char × List Char)
  | '.' :: rest => readDigits rest
  | cs => some ([], cs)

/-- Reads the sign of an exponent; whether it is negative. -/
def readExponentSign : List Char → Bool × List Char
  | '-' :: rest => (true, rest)
  | '+' :: rest => (false, rest)
  | cs => (false, cs)

/-- Reads the exponent of a number, if there is one. -/
def readExponent : List Char → Option (Option (Bool × List Char) × List Char)
  | [] => some (none, [])
  | mark :: rest =>
    if mark = 'e' || mark = 'E' then
      let (down, rest) := readExponentSign rest
      (readDigits rest).map fun (digits, after) => (some (down, digits), after)
    else some (none, mark :: rest)

/-- Reads a number: no leading zeros, at least one digit in each part. -/
def readNumeral (cs : List Char) : Option (Numeral × List Char) := do
  let (negative, cs) := readSign cs
  let (whole, cs) ← readWhole cs
  let (places, cs) ← readPlaces cs
  let (exponent, cs) ← readExponent cs
  pure (⟨negative, whole, places, exponent⟩, cs)

mutual

/-- Reads one document; `fuel` bounds the calls below it. -/
def readDocument : Nat → List Char → Option (Document × List Char)
  | 0, _ => none
  | fuel + 1, cs =>
    match skipSpace cs with
    | 'n' :: 'u' :: 'l' :: 'l' :: rest => some (.null, rest)
    | 't' :: 'r' :: 'u' :: 'e' :: rest => some (.boolean true, rest)
    | 'f' :: 'a' :: 'l' :: 's' :: 'e' :: rest => some (.boolean false, rest)
    | '"' :: rest => do
      let (pieces, after) ← readPieces rest
      pure (.string ((joinPieces pieces).map String.ofList), after)
    | '[' :: rest =>
      match skipSpace rest with
      | ']' :: after => some (.array [], after)
      | _ => do
        let (items, after) ← readItems fuel rest
        pure (.array items, after)
    | '\x7b' :: rest =>
      match skipSpace rest with
      | '\x7d' :: after => some (.object [], after)
      | _ => do
        let (members, after) ← readMembers fuel rest
        pure (.object members, after)
    | rest => do
      let (numeral, after) ← readNumeral rest
      pure (.number numeral, after)

/-- Reads the items of an array, at least one, up to its closing bracket. -/
def readItems : Nat → List Char → Option (List Document × List Char)
  | 0, _ => none
  | fuel + 1, cs => do
    let (item, after) ← readDocument fuel cs
    match skipSpace after with
    | ',' :: rest => do
      let (items, after) ← readItems fuel rest
      pure (item :: items, after)
    | ']' :: rest => pure ([item], rest)
    | _ => none

/-- Reads the members of an object, at least one, up to its closing brace. -/
def readMembers : Nat → List Char → Option (List (Option String × Document) × List Char)
  | 0, _ => none
  | fuel + 1, cs =>
    match skipSpace cs with
    | '"' :: rest => do
      let (pieces, after) ← readPieces rest
      let name := (joinPieces pieces).map String.ofList
      match skipSpace after with
      | ':' :: rest => do
        let (value, after) ← readDocument fuel rest
        match skipSpace after with
        | ',' :: rest => do
          let (members, after) ← readMembers fuel rest
          pure ((name, value) :: members, after)
        | '\x7d' :: rest => pure ([(name, value)], rest)
        | _ => none
      | _ => none
    | _ => none

end

/-- Reads a text that holds one document and nothing else. -/
def Document.parse? (text : String) : Option Document := do
  let cs := text.toList
  let (document, after) ← readDocument (2 * cs.length + 2) cs
  guard (skipSpace after).isEmpty
  pure document

end ScriptBridge.Json
