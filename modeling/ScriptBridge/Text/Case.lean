import ScriptBridge.Text.CaseTables
/-!
Letter case. `lowercase` is the full mapping of the standard, with its two irregular cases: a dotted
capital I becomes two characters, and a capital sigma that ends a word becomes the final sigma.
`sameIgnoringCase` compares texts up to the case of ASCII letters only.
-/

namespace ScriptBridge.Text

/-- The lower-case form of one character away from its neighbours. -/
def lowerChar (c : Char) : List Char :=
  if c.toNat < 128 then [c.toLower]
  else if c = 'İ' then ['i', '\u0307']
  else
    match lowercaseRuns.find? (·.covers c.toNat) with
    | some run => [Char.ofNat ((c.toNat : Int) + run.shift).toNat]
    | none => [c]

/-- Whether the first character that counts is cased. -/
def startsCased (cs : List Char) : Bool :=
  match cs.dropWhile caseIgnorableClass.holds with
  | [] => false
  | c :: _ => casedClass.holds c

/-- Lower-cases the characters; `before` holds those already passed, nearest first. -/
def lowercaseFrom (before : List Char) : List Char → List Char
  | [] => []
  | c :: rest =>
    let lowered :=
      if c = 'Σ' then [if startsCased before && !startsCased rest then 'ς' else 'σ']
      else lowerChar c
    lowered ++ lowercaseFrom (c :: before) rest

/-- The text in lower case. -/
def lowercase (text : String) : String :=
  String.ofList (lowercaseFrom [] text.toList)

/-- Whether two texts are equal up to the case of ASCII letters. -/
def sameIgnoringCase (a b : String) : Bool :=
  a.toList.map Char.toLower == b.toList.map Char.toLower

/-- An ASCII character has the lower-case form that core gives it. -/
theorem lowerChar_of_ascii {c : Char} (h : c.toNat < 128) : lowerChar c = [c.toLower] := by
  simp [lowerChar, h]

end ScriptBridge.Text
