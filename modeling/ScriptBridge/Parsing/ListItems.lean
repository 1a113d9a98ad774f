import ScriptBridge.Token.Basic
/-!
Splitting lists. A list is written `a, b and c`: its items are separated by commas and by the word
`and` outside of parentheses, and a comma may be followed by `and`. Items are given by the positions
between which they stand.
-/

namespace ScriptBridge.Parsing

/-- What a token is to a list. -/
inductive ListMark where
  | opening
  | closing
  | comma
  | conjunction
  | content
deriving DecidableEq, Repr

/-- What a token is to a list, outside of any parentheses. -/
def listMark (token : Token) : ListMark :=
  match token.kind with
  | .punct =>
    if token.text = "(" then .opening
    else if token.text = ")" then .closing
    else if token.text = "," then .comma
    else .content
  | .word => if token.isLiteral "and" then .conjunction else .content
  | .quoted => .content

/-- Splits the tokens from position `index` on. `depth` counts the open parentheses, the current item
begins at `start`, and `afterComma` says that the token in front was a separating comma. -/
def splitFrom (depth : Nat) (afterComma : Bool) (start index : Nat) :
    List Token → Option (List (Nat × Nat))
  | [] => if start < index then some [(start, index)] else none
  | token :: rest =>
    match listMark token, depth with
    | .opening, _ => splitFrom (depth + 1) false start (index + 1) rest
    | .closing, 0 => none
    | .closing, depth + 1 => splitFrom depth false start (index + 1) rest
    | .comma, 0 =>
      if start < index then
        (splitFrom 0 true (index + 1) (index + 1) rest).map ((start, index) :: ·)
      else none
    | .conjunction, 0 =>
      if start < index then
        (splitFrom 0 false (index + 1) (index + 1) rest).map ((start, index) :: ·)
      else if afterComma then splitFrom 0 false (index + 1) (index + 1) rest
      else none
    | _, _ => splitFrom depth false start (index + 1) rest

/-- The items of a list of two or more, as the positions between which they stand. -/
def splitList (tokens : List Token) : Option (List (Nat × Nat)) :=
  (splitFrom 0 false 0 0 tokens).filter (2 ≤ ·.length)

end ScriptBridge.Parsing
