import ScriptBridge.Decimal.Shortest
/-!
Reading floating-point numbers. A number is an optional sign followed by digits with at most one
point and at least one digit, and an optional exponent; or by one of the words `inf`, `infinity` and
`nan` in any case. Nothing else may stand around it. The value is the nearest one of the format.
-/

namespace ScriptBridge.Decimal

/-- A number as written, before it is fitted into a format. -/
inductive Reading where
  | notANumber (negative : Bool)
  | infinite (negative : Bool)
  | finite (negative : Bool) (decimal : Digits)
deriving DecidableEq, Repr

/-- The value of a list of decimal digits. -/
def digitsValue (digits : List Char) : Nat :=
  digits.foldl (fun n c => 10 * n + (c.toNat - '0'.toNat)) 0

/-- The exponent part: nothing, or the letter `e` with a signed whole number. -/
def readExponent : List Char → Option Int
  | [] => some 0
  | mark :: rest =>
    if mark = 'e' || mark = 'E' then
      let (negative, digits) :=
        match rest with
        | '-' :: digits => (true, digits)
        | '+' :: digits => (false, digits)
        | digits => (false, digits)
      if digits.isEmpty || !digits.all Char.isDigit then none
      else
        let n : Int := digitsValue digits
        some (if negative then -n else n)
    else none

/-- An unsigned number in digits. -/
def readDigits (cs : List Char) : Option Digits :=
  let whole := cs.takeWhile Char.isDigit
  let afterWhole := cs.dropWhile Char.isDigit
  let (places, afterPlaces) :=
    match afterWhole with
    | '.' :: rest => (rest.takeWhile Char.isDigit, rest.dropWhile Char.isDigit)
    | rest => ([], rest)
  if whole.isEmpty && places.isEmpty then none
  else
    (readExponent afterPlaces).map fun exponent =>
      ⟨digitsValue (whole ++ places), exponent - places.length⟩

/-- A number as written. -/
def read (text : String) : Option Reading :=
  let (negative, rest) :=
    match text.toList with
    | '-' :: rest => (true, rest)
    | '+' :: rest => (false, rest)
    | rest => (false, rest)
  let word := String.ofList (rest.map Char.toLower)
  if word = "nan" then some (.notANumber negative)
  else if word = "inf" || word = "infinity" then some (.infinite negative)
  else (readDigits rest).map (.finite negative ·)

/-- The size of a non-zero decimal beyond which every format has overflowed or vanished. -/
def extremeExponent : Int := 2048

/-- Splits a decimal into the cases every format treats alike and one fit for exact conversion. -/
def Digits.fit {α : Type} (decimal : Digits) (zero infinity : α) (exact : Nat → Bool → Nat → α) : α :=
  let leading := decimal.exponent + digitCount decimal.digits
  if decimal.digits = 0 || leading < -extremeExponent then zero
  else if extremeExponent < leading then infinity
  else exact decimal.digits (decimal.exponent < 0) decimal.exponent.natAbs

/-- The nearest 64-bit number. -/
def Reading.toDouble : Reading → Float
  | .notANumber _ => 0.0 / 0.0
  | .infinite negative => if negative then -1.0 / 0.0 else 1.0 / 0.0
  | .finite negative decimal =>
    let size := decimal.fit 0.0 (1.0 / 0.0) Float.ofScientific
    if negative then -size else size

/-- The nearest 32-bit number. -/
def Reading.toSingle : Reading → Float32
  | .notANumber _ => 0.0 / 0.0
  | .infinite negative => if negative then -1.0 / 0.0 else 1.0 / 0.0
  | .finite negative decimal =>
    let size := decimal.fit 0.0 (1.0 / 0.0) Float32.ofScientific
    if negative then -size else size

/-- Reads a 64-bit number. -/
def readDouble (text : String) : Option Float :=
  (read text).map Reading.toDouble

/-- Reads a 32-bit number. -/
def readSingle (text : String) : Option Float32 :=
  (read text).map Reading.toSingle

end ScriptBridge.Decimal
