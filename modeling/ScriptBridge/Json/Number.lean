import ScriptBridge.Decimal.Reader
import ScriptBridge.Json.Document
/-!
The value of a number in a JSON document. Numbers without places and exponent that fit in 64 bits are
whole; the others are floating-point numbers, taken as their leading digits times a power of ten.
-/

namespace ScriptBridge.Json

/-- The value of a numeral. -/
inductive Number where
  | natural (value : Nat)
  | negative (value : Int)
  | float (value : Float)

/-- The first number that does not fit in 64 bits. -/
def wordBound : Nat := UInt64.size

/-- Appends digits to a number as long as the result fits in 64 bits; also the number of digits taken. -/
def appendDigits (significand : Nat) : List Char → Nat × Nat
  | [] => (significand, 0)
  | c :: rest =>
    let next := 10 * significand + (c.toNat - '0'.toNat)
    if wordBound ≤ next then (significand, 0)
    else
      let (result, taken) := appendDigits next rest
      (result, taken + 1)

/-- A power of ten up to the greatest finite one. -/
def powerOfTen (exponent : Nat) : Float :=
  Float.ofScientific 1 false exponent

/-- Divides by a power of ten, in steps that stay finite. -/
def divideByPower (x : Float) (exponent : Nat) : Float :=
  if exponent ≤ 308 then x / powerOfTen exponent
  else if x == 0 then x
  else divideByPower (x / powerOfTen 308) (exponent - 308)
termination_by exponent

/-- A significand times a power of ten; absent if that is too large. -/
def scaled? (significand : Nat) (exponent : Int) : Option Float :=
  let x := significand.toUInt64.toFloat
  if exponent < 0 then some (divideByPower x exponent.natAbs)
  else if exponent ≤ 308 then
    let y := x * powerOfTen exponent.natAbs
    if y.isInf then none else some y
  else if x == 0 then some x else none

/-- The value of a numeral; absent if it is out of range. -/
def Numeral.value? (numeral : Numeral) : Option Number :=
  let (whole, taken) := appendDigits 0 numeral.whole
  let dropped := numeral.whole.length - taken
  if numeral.places.isEmpty && numeral.exponent.isNone && dropped == 0 then
    if !numeral.negative then some (.natural whole)
    else if whole == 0 || wordBound / 2 < whole then some (.float (-whole.toUInt64.toFloat))
    else some (.negative (-whole))
  else
    let (significand, places) := appendDigits whole numeral.places
    let exponent : Int :=
      match numeral.exponent with
      | none => 0
      | some (down, digits) =>
        if down then -(Decimal.digitsValue digits : Int) else Decimal.digitsValue digits
    (scaled? significand (dropped - places + exponent)).map fun x =>
      .float (if numeral.negative then -x else x)

end ScriptBridge.Json
