import ScriptBridge.Text.Basic
/-!
Identifiers of entities: 128 bits, written as 32 digits in base sixteen in five groups. Reading also
takes the digits without hyphens, and the grouped form in braces or behind `urn:uuid:` in any case.
-/

namespace ScriptBridge

/-- A universally unique identifier. -/
structure Uuid where
  bits : BitVec 128
deriving DecidableEq, Repr

namespace Uuid

/-- The identifier with these digits, if there are 32 of them. -/
def ofDigits? (cs : List Char) : Option Uuid := do
  guard (cs.length = 32)
  let digits ← cs.mapM Text.hexValue?
  pure ⟨BitVec.ofNat 128 (digits.foldl (fun n d => 16 * n + d) 0)⟩

/-- The sizes of the groups between hyphens. -/
def groups : List Nat := [8, 4, 4, 4, 12]

/-- Takes groups of these sizes with a hyphen between each two, and returns what they hold. -/
def ungroup? : List Nat → List Char → Option (List Char)
  | [], cs => if cs.isEmpty then some [] else none
  | [size], cs => if cs.length = size then some cs else none
  | size :: sizes, cs =>
    match cs.drop size with
    | '-' :: rest => (ungroup? sizes rest).map (cs.take size ++ ·)
    | _ => none

/-- The grouped form. -/
def ofGrouped? (cs : List Char) : Option Uuid :=
  ungroup? groups cs >>= ofDigits?

/-- What may stand in front of a grouped identifier, in either case of its letters. -/
def scheme : List Char := "urn:uuid:".toList

/-- The characters without what surrounds a grouped identifier: braces, or the name of its scheme. -/
def unwrap (cs : List Char) : List Char :=
  if (cs.take scheme.length).map Char.toLower = scheme then cs.drop scheme.length
  else
    match cs with
    | '{' :: rest => if rest.getLast? = some '}' then rest.dropLast else cs
    | _ => cs

/-- Reads an identifier. -/
def parse? (text : String) : Option Uuid :=
  let cs := text.toList
  if cs.length = 32 then ofDigits? cs else ofGrouped? (unwrap cs)

/-- The 32 digits of an identifier, lower case. -/
def digits (id : Uuid) : List Char :=
  Text.paddedHexDigits 32 id.bits.toNat

/-- Joins groups of these sizes with hyphens. -/
def group : List Nat → List Char → List Char
  | [], cs => cs
  | [_], cs => cs
  | size :: sizes, cs => cs.take size ++ '-' :: group sizes (cs.drop size)

/-- The grouped form of an identifier. -/
def toText (id : Uuid) : String :=
  String.ofList (group groups id.digits)

end Uuid

end ScriptBridge
