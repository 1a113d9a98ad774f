import ScriptBridge.Match
import ScriptBridge.Pattern.Basic
import ScriptBridge.Token.Basic
/-!
Matching patterns against tokens. A pattern is matched by the first way that fits, where the branches
of a group are tried in order, an optional group is tried before it is left out, and a slot tries the
shortest piece first. For each piece the rest of the pattern is matched before the piece itself is
read. What remains of a pattern is a function from positions to bindings, so matching is recursive in
the pattern alone; how the piece for a slot is read is a parameter.
-/

namespace ScriptBridge.Parsing

/-- Reads the tokens between two positions as the value of a slot. -/
abbrev SlotReader := Slot → Nat → Nat → Option Expression

/-- What a way to match a pattern comes to: the slots that were read, with their numbers, the tags of
the branches taken, in order, and the slots in the groups that were left out. -/
structure Bindings where
  bound : List (Nat × Expression) := []
  tags : List String := []
  skipped : List Nat := []

namespace Bindings

/-- Binds a slot. -/
def bind (bindings : Bindings) (slot : Slot) (expression : Expression) : Bindings :=
  { bindings with bound := (slot.index, expression) :: bindings.bound }

/-- Enters a branch with its tag, if it has one. -/
def enter (bindings : Bindings) (tag : Option String) : Bindings :=
  { bindings with tags := tag.toList ++ bindings.tags }

/-- Leaves out a group. -/
def skip (bindings : Bindings) (slots : List Slot) : Bindings :=
  { bindings with skipped := slots.map Slot.index ++ bindings.skipped }

end Bindings

/-- What remains to be matched, from a position on. -/
abbrev Continuation := Nat → Option Bindings

/-- Matches a literal token. -/
def matchLiteral (tokens : List Token) (literal : String) (next : Continuation) (start : Nat) :
    Option Bindings :=
  match tokens[start]? with
  | none => none
  | some token => if token.isLiteral literal then next (start + 1) else none

/-- Matches a slot with the pieces that end at the given positions, tried in order. -/
def matchSlotAt (read : SlotReader) (slot : Slot) (next : Continuation) (start : Nat) :
    List Nat → Option Bindings
  | [] => none
  | stop :: later =>
    match (next stop).bind fun bindings => (read slot start stop).map (bindings.bind slot ·) with
    | some bindings => some bindings
    | none => matchSlotAt read slot next start later

/-- Matches a slot with a piece of one token or more, shortest first. -/
def matchSlot (read : SlotReader) (tokens : List Token) (slot : Slot) (next : Continuation)
    (start : Nat) : Option Bindings :=
  matchSlotAt read slot next start (List.range' (start + 1) (tokens.length - start))

mutual

/-- Matches a node and what comes after it. -/
def matchNode (read : SlotReader) (tokens : List Token) :
    Node → Continuation → Nat → Option Bindings
  | .literal text, next, start => matchLiteral tokens text next start
  | .choice branches, next, start => matchAnyBranch read tokens branches next start
  | .optional branch, next, start =>
    match matchBranch read tokens branch next start with
    | some bindings => some bindings
    | none => (next start).map (·.skip branch.slots)
  | .slot slot, next, start => matchSlot read tokens slot next start

/-- Matches a branch and what comes after its group. -/
def matchBranch (read : SlotReader) (tokens : List Token) :
    Branch → Continuation → Nat → Option Bindings
  | .mk tag nodes, next, start => (matchNodes read tokens nodes next start).map (·.enter tag)

/-- Matches a sequence of nodes and what comes after it. -/
def matchNodes (read : SlotReader) (tokens : List Token) :
    List Node → Continuation → Nat → Option Bindings
  | [], next, start => next start
  | node :: rest, next, start =>
    matchNode read tokens node (matchNodes read tokens rest next) start

/-- Matches the first of the branches that fits, and what comes after their group. -/
def matchAnyBranch (read : SlotReader) (tokens : List Token) :
    List Branch → Continuation → Nat → Option Bindings
  | [], _, _ => none
  | branch :: rest, next, start =>
    match matchBranch read tokens branch next start with
    | some bindings => some bindings
    | none => matchAnyBranch read tokens rest next start

end

/-- Nothing remains to be matched: all tokens must have been taken. -/
def matchEnd (tokens : List Token) : Continuation := fun start =>
  if start = tokens.length then some {} else none

/-- Matches a whole pattern against all the tokens. -/
def matchPattern (read : SlotReader) (tokens : List Token) (pattern : Pattern) : Option Bindings :=
  matchNodes read tokens pattern.nodes (matchEnd tokens) 0

end ScriptBridge.Parsing
