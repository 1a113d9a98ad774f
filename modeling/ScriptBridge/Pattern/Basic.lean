import ScriptBridge.Error
/-!
Patterns: the grammar rules that scripts are read with. A pattern is a sequence of nodes; groups hold
branches, which are sequences again. Slots are numbered from left to right.
-/

namespace ScriptBridge

/-- A place in a pattern for the value of a type. `plural` says that the plural name of the type was
used, `noDefault` that it stays empty when its group is left out, and `literalOnly` that nothing but
written-out values may stand there. The key is known once the slot is resolved. -/
structure Slot where
  index : Nat
  typeName : String
  key : Option TypeKey := none
  plural : Bool := false
  noDefault : Bool := false
  literalOnly : Bool := false
deriving DecidableEq, Repr, Inhabited

mutual

/-- A node of a pattern: a literal token, exactly one of several branches, a branch that may be left
out, or a slot. -/
inductive Node where
  | literal (text : String)
  | choice (branches : List Branch)
  | optional (branch : Branch)
  | slot (slot : Slot)

/-- A branch of a group, which may carry a tag. -/
inductive Branch where
  | mk (tag : Option String) (nodes : List Node)

end

namespace Branch

/-- The tag of the branch. -/
def tag : Branch → Option String
  | .mk tag _ => tag

/-- The nodes of the branch. -/
def nodes : Branch → List Node
  | .mk _ nodes => nodes

end Branch

mutual

/-- The slots in a node, from left to right. -/
def Node.slots : Node → List Slot
  | .literal _ => []
  | .choice branches => slotsOfBranches branches
  | .optional branch => Branch.slots branch
  | .slot slot => [slot]

/-- The slots in a branch, from left to right. -/
def Branch.slots : Branch → List Slot
  | .mk _ nodes => slotsOfNodes nodes

/-- The slots in a sequence of nodes, from left to right. -/
def slotsOfNodes : List Node → List Slot
  | [] => []
  | node :: rest => Node.slots node ++ slotsOfNodes rest

/-- The slots in a sequence of branches, from left to right. -/
def slotsOfBranches : List Branch → List Slot
  | [] => []
  | branch :: rest => Branch.slots branch ++ slotsOfBranches rest

end

/-- What a type name in a slot stands for: the key of the type, and whether the name is the plural. -/
abbrev TypeLookup := String → Option (TypeKey × Bool)

/-- Resolves a slot; a name that is not known is the error. -/
def Slot.resolve (lookup : TypeLookup) (slot : Slot) : Except String Slot :=
  match lookup slot.typeName with
  | none => .error slot.typeName
  | some (key, plural) => .ok { slot with key := some key, plural }

mutual

/-- Resolves the slots in a node; the first name that is not known is the error. -/
def Node.resolve (lookup : TypeLookup) : Node → Except String Node
  | .literal text => .ok (.literal text)
  | .choice branches => (resolveBranches lookup branches).map .choice
  | .optional branch => (Branch.resolve lookup branch).map .optional
  | .slot slot => (slot.resolve lookup).map .slot

/-- Resolves the slots in a branch. -/
def Branch.resolve (lookup : TypeLookup) : Branch → Except String Branch
  | .mk tag nodes => (resolveNodes lookup nodes).map (.mk tag)

/-- Resolves the slots in a sequence of nodes. -/
def resolveNodes (lookup : TypeLookup) : List Node → Except String (List Node)
  | [] => .ok []
  | node :: rest => do
    let node ← Node.resolve lookup node
    let rest ← resolveNodes lookup rest
    pure (node :: rest)

/-- Resolves the slots in a sequence of branches. -/
def resolveBranches (lookup : TypeLookup) : List Branch → Except String (List Branch)
  | [] => .ok []
  | branch :: rest => do
    let branch ← Branch.resolve lookup branch
    let rest ← resolveBranches lookup rest
    pure (branch :: rest)

end

/-- A compiled pattern with the text it was compiled from. -/
structure Pattern where
  source : String
  nodes : List Node
  slotCount : Nat

namespace Pattern

/-- Every slot of the pattern, in the order of their numbers. -/
def slots (pattern : Pattern) : List Slot :=
  slotsOfNodes pattern.nodes

/-- Resolves the slots of the pattern. -/
def resolve (lookup : TypeLookup) (pattern : Pattern) : Except RegistrationError Pattern :=
  match resolveNodes lookup pattern.nodes with
  | .ok nodes => .ok { pattern with nodes }
  | .error name => .error (.unknownType name pattern.source)

end Pattern

/-- Resolves the patterns of an entry in order. -/
def resolvePatterns (lookup : TypeLookup) : List Pattern → Except RegistrationError (List Pattern)
  | [] => .ok []
  | pattern :: rest => do
    let pattern ← pattern.resolve lookup
    let rest ← resolvePatterns lookup rest
    pure (pattern :: rest)

end ScriptBridge
