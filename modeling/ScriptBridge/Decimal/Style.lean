import ScriptBridge.Decimal.Shortest
/-!
Writing floating-point numbers. A `Style` decides which decimals stand without an exponent, whether a
whole number keeps its point and whether an exponent shows a plus sign; the digits are always the
shortest ones.
-/

namespace ScriptBridge.Decimal

/-- How decimals are written: those whose leading digit has an exponent in `positional` (all of them
if it is absent) stand without an exponent, `wholePoint` keeps `.0` on whole ones, and `plusSign` marks
exponents that are not negative. -/
structure Style where
  positional : Option (Int × Int)
  wholePoint : Bool
  plusSign : Bool
  tie : Tie

/-- Text shown to users: never an exponent, and no point on whole numbers. -/
def Style.plain : Style := ⟨none, false, false, .upper⟩

/-- Diagnostic text: an exponent below `1e-4` and from `1e16` on. -/
def Style.diagnostic : Style := ⟨some (-4, 15), true, false, .upper⟩

/-- The digits without an exponent. -/
def positionalText (style : Style) (decimal : Digits) : String :=
  let digits := Nat.toDigits 10 decimal.digits
  if 0 ≤ decimal.exponent then
    String.ofList (digits ++ List.replicate decimal.exponent.toNat '0')
      ++ (if style.wholePoint then ".0" else "")
  else
    let places := (-decimal.exponent).toNat
    if places < digits.length then
      let whole := digits.length - places
      String.ofList (digits.take whole ++ '.' :: digits.drop whole)
    else
      String.ofList ('0' :: '.' :: List.replicate (places - digits.length) '0' ++ digits)

/-- The digits with a point after the first one and an exponent. -/
def exponentText (style : Style) (decimal : Digits) : String :=
  let digits := Nat.toDigits 10 decimal.digits
  let leading := decimal.exponent + digits.length - 1
  let mantissa :=
    match digits with
    | first :: second :: rest => first :: '.' :: second :: rest
    | few => few
  String.ofList mantissa ++ (if style.plusSign && 0 ≤ leading then "e+" else "e") ++ toString leading

/-- A non-negative decimal in the given style. -/
def Style.write (style : Style) (decimal : Digits) : String :=
  let leading := decimal.exponent + digitCount decimal.digits - 1
  match style.positional with
  | none => positionalText style decimal
  | some (least, greatest) =>
    if decimal.digits == 0 || (least ≤ leading && leading ≤ greatest) then
      positionalText style decimal
    else exponentText style decimal

/-- A binary number in the given style. -/
def Style.text (style : Style) : Binary → String
  | .notANumber => "NaN"
  | .infinite negative => if negative then "-inf" else "inf"
  | .finite negative significand exponent narrowBelow =>
    (if negative then "-" else "") ++ style.write (shortest style.tie significand exponent narrowBelow)

/-- A 64-bit number in the given style. -/
def Style.double (style : Style) (x : Float) : String :=
  style.text (.ofBits .double x.toBits.toNat)

/-- A 32-bit number in the given style. -/
def Style.single (style : Style) (x : Float32) : String :=
  style.text (.ofBits .single x.toBits.toNat)

end ScriptBridge.Decimal
