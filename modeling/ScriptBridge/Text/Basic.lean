/-!
Texts as lists of characters: classes of characters, digits in base sixteen, and pieces between byte
offsets. A class of code points is an ascending list of the points at which membership changes, beginning
with "not a member" at zero, so a standard's table of ranges is one flat list.
-/

namespace ScriptBridge.Text

/-! ### Classes of characters -/

/-- A class of code points, written as the ascending points at which membership changes. -/
structure CharClass where
  boundaries : List Nat

namespace CharClass

/-- Whether an odd number of the leading boundaries lie at or below `point`. -/
def toggled : List Nat → Nat → Bool
  | [], _ => false
  | boundary :: rest, point => if point < boundary then false else !toggled rest point

/-- Whether the character belongs to the class. -/
def holds (cls : CharClass) (c : Char) : Bool :=
  toggled cls.boundaries c.toNat

end CharClass

/-! ### Digits in base sixteen -/

/-- The value of a digit in base sixteen, in either case. -/
def hexValue? (c : Char) : Option Nat :=
  if c.isDigit then some (c.toNat - '0'.toNat)
  else if 'a' ≤ c ∧ c ≤ 'f' then some (c.toNat - 'a'.toNat + 10)
  else if 'A' ≤ c ∧ c ≤ 'F' then some (c.toNat - 'A'.toNat + 10)
  else none

/-- The digits of a number in base sixteen, lower case. -/
def hexDigits (n : Nat) : List Char :=
  Nat.toDigits 16 n

/-- The digits of a number in base sixteen, with zeros in front up to a width. -/
def paddedHexDigits (width n : Nat) : List Char :=
  List.replicate (width - (hexDigits n).length) '0' ++ hexDigits n

/-! ### Pieces -/

/-- The characters without those in the first `count` bytes. -/
def dropBytes (count : Nat) : List Char → List Char
  | [] => []
  | c :: rest => if count = 0 then c :: rest else dropBytes (count - c.utf8Size) rest

/-- The characters in the first `count` bytes. -/
def takeBytes (count : Nat) : List Char → List Char
  | [] => []
  | c :: rest => if count = 0 then [] else c :: takeBytes (count - c.utf8Size) rest

/-- The characters between two byte offsets. -/
def sliceBytes (start stop : Nat) (cs : List Char) : List Char :=
  takeBytes (stop - start) (dropBytes start cs)

end ScriptBridge.Text
