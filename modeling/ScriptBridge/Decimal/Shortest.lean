/-!
The shortest decimal of a binary floating-point number. A finite number is `significand · 2^exponent`;
the decimals that read back as it are those in the interval halfway to its two neighbours, ends
included exactly if the significand is even. `shortest` tries one digit, two digits and so on, and
takes the first grid of decimals that has a point in the interval: of two such points the nearer one,
and of two equally near ones the one that the tie rule names.
-/

namespace ScriptBridge.Decimal

/-- How a binary format spends its bits below the sign. -/
structure Layout where
  fractionBits : Nat
  exponentBits : Nat

/-- The 64-bit format. -/
def Layout.double : Layout := ⟨52, 11⟩

/-- The 32-bit format. -/
def Layout.single : Layout := ⟨23, 8⟩

/-- What the bits of a binary number stand for; a finite one is `significand · 2^exponent`, and
`narrowBelow` says that the neighbour below is at half the distance of the one above. -/
inductive Binary where
  | notANumber
  | infinite (negative : Bool)
  | finite (negative : Bool) (significand : Nat) (exponent : Int) (narrowBelow : Bool)
deriving DecidableEq, Repr

/-- The number that a bit pattern stands for. -/
def Binary.ofBits (layout : Layout) (bits : Nat) : Binary :=
  let fraction := bits % Nat.pow 2 layout.fractionBits
  let upper := bits / Nat.pow 2 layout.fractionBits
  let field := upper % Nat.pow 2 layout.exponentBits
  let negative := upper / Nat.pow 2 layout.exponentBits % 2 == 1
  let least : Int := 2 - Nat.pow 2 (layout.exponentBits - 1) - layout.fractionBits
  if field == Nat.pow 2 layout.exponentBits - 1 then
    if fraction == 0 then .infinite negative else .notANumber
  else if field == 0 then .finite negative fraction least false
  else
    .finite negative (Nat.pow 2 layout.fractionBits + fraction) (least + (field - 1))
      (fraction == 0 && field != 1)

/-- Which of two equally near decimals is taken. -/
inductive Tie where
  | upper
  | even
deriving DecidableEq, Repr

/-- Whether the upper neighbour of `below` is taken, `remainder` being the distance from `below` in
units of which `whole` make the way up. -/
def Tie.takesUpper (tie : Tie) (below remainder whole : Nat) : Bool :=
  whole < 2 * remainder
    || (whole == 2 * remainder && (tie == .upper || below % 2 == 1))

/-- The decimal `digits · 10^exponent`. -/
structure Digits where
  digits : Nat
  exponent : Int
deriving DecidableEq, Repr

/-- The number of decimal digits of a number, one for zero. -/
def digitCount (n : Nat) : Nat :=
  (Nat.toDigits 10 n).length

/-- The exponent of the leading decimal digit of the positive fraction `num / den`. -/
def leadingExponent (num den : Nat) : Int :=
  if den ≤ num then (digitCount (num / den) : Int) - 1
  else
    let shift := digitCount den - digitCount num
    if den ≤ num * Nat.pow 10 shift then -(shift : Int) else -(shift : Int) - 1

/-- An interval around a value, all four numbers over one denominator. -/
structure Interval where
  low : Nat
  value : Nat
  high : Nat
  denominator : Nat
  closed : Bool

/-- The decimals that read back as `significand · 2^exponent`, in units of a quarter of its last
place. -/
def Interval.around (significand : Nat) (exponent : Int) (narrowBelow : Bool) : Interval :=
  let scale := Nat.pow 2 exponent.toNat
  { low := (4 * significand - (if narrowBelow then 1 else 2)) * scale
    value := 4 * significand * scale
    high := (4 * significand + 2) * scale
    denominator := 4 * Nat.pow 2 (-exponent).toNat
    closed := significand % 2 == 0 }

/-- Whether the interval holds the fraction `num / den`. -/
def Interval.holds (interval : Interval) (num den : Nat) : Bool :=
  let point := num * interval.denominator
  if interval.closed then interval.low * den ≤ point && point ≤ interval.high * den
  else interval.low * den < point && point < interval.high * den

/-- The point of the grid of multiples of `10^exponent` that lies in the interval and nearest to its
value. -/
def Interval.onGrid (interval : Interval) (tie : Tie) (exponent : Int) : Option Digits :=
  let up := Nat.pow 10 exponent.toNat
  let down := Nat.pow 10 (-exponent).toNat
  let num := interval.value * down
  let den := interval.denominator * up
  let below := num / den
  let lower := interval.holds (below * up) down
  let upper := interval.holds ((below + 1) * up) down
  match lower, upper with
  | false, false => none
  | true, false => some ⟨below, exponent⟩
  | false, true => some ⟨below + 1, exponent⟩
  | true, true => some ⟨if tie.takesUpper below (num % den) den then below + 1 else below, exponent⟩

/-- The first grid with a point in the interval, trying `count` more grids, each ten times finer. -/
def Interval.firstGrid (interval : Interval) (tie : Tie) (exponent : Int) : Nat → Digits
  | 0 =>
    ⟨interval.value * Nat.pow 10 (-exponent).toNat
        / (interval.denominator * Nat.pow 10 exponent.toNat), exponent⟩
  | count + 1 =>
    match interval.onGrid tie exponent with
    | some found => found
    | none => interval.firstGrid tie (exponent - 1) count

/-- The shortest decimal that reads back as `significand · 2^exponent`. The first grid is the one
above the leading digit, since the interval may reach up to the next power of ten; seventeen digits
suffice for every format up to 64 bits. -/
def shortest (tie : Tie) (significand : Nat) (exponent : Int) (narrowBelow : Bool) : Digits :=
  if significand = 0 then ⟨0, 0⟩
  else
    let interval := Interval.around significand exponent narrowBelow
    interval.firstGrid tie (leadingExponent interval.value interval.denominator + 1) 18

end ScriptBridge.Decimal
