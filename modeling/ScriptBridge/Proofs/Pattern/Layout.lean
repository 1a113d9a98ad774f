import ScriptBridge.Proofs.Parsing.Resolution
import ScriptBridge.Proofs.Pattern.Compilation
/-!
What is where in a pattern. A node may contain another at any depth, the slots of a pattern are those that
its nodes contain, and the branches of its groups are listed as they are met from left to right, each in
front of the branches inside it. A pattern is built by compiling a text and resolving what was compiled,
and neither leaves a slot without its place in the order of numbers.
-/

namespace ScriptBridge

/-- The second node is the first one, or stands in one of its branches, at any depth. -/
inductive Node.Contains : Node → Node → Prop where
  | self {node : Node} : Node.Contains node node
  | choice {branches : List Branch} {branch : Branch} {node inner : Node}
      (listed : branch ∈ branches) (inside : node ∈ branch.nodes)
      (contains : Node.Contains node inner) : Node.Contains (.choice branches) inner
  | optional {branch : Branch} {node inner : Node} (inside : node ∈ branch.nodes)
      (contains : Node.Contains node inner) : Node.Contains (.optional branch) inner

/-- The branch contains a node, at any depth. -/
def Branch.Contains (branch : Branch) (inner : Node) : Prop :=
  ∃ node ∈ branch.nodes, node.Contains inner

/-- The pattern contains a node, at any depth. -/
def Pattern.Contains (pattern : Pattern) (inner : Node) : Prop :=
  ∃ node ∈ pattern.nodes, node.Contains inner

theorem Branch.slots_eq (branch : Branch) : branch.slots = slotsOfNodes branch.nodes := by
  cases branch
  rfl

theorem slotsOfNodes_eq_flatMap (nodes : List Node) : slotsOfNodes nodes = nodes.flatMap Node.slots := by
  induction nodes with
  | nil => rfl
  | cons node rest ih => rw [slotsOfNodes, List.flatMap_cons, ih]

theorem slotsOfBranches_eq_flatMap (branches : List Branch) :
    slotsOfBranches branches = branches.flatMap Branch.slots := by
  induction branches with
  | nil => rfl
  | cons branch rest ih => rw [slotsOfBranches, List.flatMap_cons, ih]

/-- What a listed branch has of slots, the list of branches has in the same order. -/
theorem slots_sublist_of_mem {branches : List Branch} {branch : Branch} (listed : branch ∈ branches) :
    branch.slots.Sublist (slotsOfBranches branches) := by
  rw [slotsOfBranches_eq_flatMap]
  exact List.sublist_flatten_of_mem (List.mem_map_of_mem listed)

theorem slots_sublist_of_chosen {branches : List Branch} {branch : Branch} {number : Nat}
    (chosen : branches[number]? = some branch) :
    (slotsOfNodes branch.nodes).Sublist (slotsOfBranches branches) := by
  rw [← branch.slots_eq]
  exact slots_sublist_of_mem (List.mem_of_getElem? chosen)

/-- A slot of a node in a branch is a slot of the branch. -/
theorem Branch.mem_slots_of_mem {branch : Branch} {node : Node} {slot : Slot}
    (inside : node ∈ branch.nodes) (listed : slot ∈ node.slots) : slot ∈ branch.slots := by
  rw [branch.slots_eq, slotsOfNodes_eq_flatMap]
  exact List.mem_flatMap.2 ⟨node, inside, listed⟩

/-- A slot that a node contains is one of its slots. -/
theorem Node.Contains.mem_slots {slot : Slot} {node : Node} (contains : node.Contains (.slot slot)) :
    slot ∈ node.slots := by
  generalize held : Node.slot slot = inner at contains
  induction contains with
  | self =>
      subst held
      exact List.mem_singleton_self _
  | choice listed inside _ ih =>
      exact (slots_sublist_of_mem listed).subset (Branch.mem_slots_of_mem inside (ih held))
  | optional inside _ ih => exact Branch.mem_slots_of_mem inside (ih held)

mutual

/-- The slots of a node are slots that it contains. -/
theorem Node.contains_of_mem_slots {slot : Slot} : ∀ {node : Node}, slot ∈ node.slots →
    node.Contains (.slot slot)
  | .literal _, listed => by cases listed
  | .slot _, listed => by
      cases List.mem_singleton.1 listed
      exact .self
  | .optional (.mk _ _), listed => by
      obtain ⟨node, inside, contains⟩ := contains_of_mem_slotsOfNodes listed
      exact .optional inside contains
  | .choice _, listed => by
      obtain ⟨branch, chosen, node, inside, contains⟩ := contains_of_mem_slotsOfBranches listed
      exact .choice chosen inside contains

theorem contains_of_mem_slotsOfNodes {slot : Slot} : ∀ {nodes : List Node},
    slot ∈ slotsOfNodes nodes → ∃ node ∈ nodes, node.Contains (.slot slot)
  | [], listed => by cases listed
  | node :: rest, listed => by
      rcases List.mem_append.1 listed with here | later
      · exact ⟨node, List.mem_cons_self .., Node.contains_of_mem_slots here⟩
      · obtain ⟨other, listed, contains⟩ := contains_of_mem_slotsOfNodes later
        exact ⟨other, List.mem_cons_of_mem _ listed, contains⟩

theorem contains_of_mem_slotsOfBranches {slot : Slot} : ∀ {branches : List Branch},
    slot ∈ slotsOfBranches branches →
      ∃ branch ∈ branches, ∃ node ∈ branch.nodes, node.Contains (.slot slot)
  | [], listed => by cases listed
  | .mk tag nodes :: rest, listed => by
      rcases List.mem_append.1 listed with here | later
      · exact ⟨.mk tag nodes, List.mem_cons_self .., contains_of_mem_slotsOfNodes here⟩
      · obtain ⟨other, listed, contains⟩ := contains_of_mem_slotsOfBranches later
        exact ⟨other, List.mem_cons_of_mem _ listed, contains⟩

end

/-- The slots of a branch are those that it contains at any depth. -/
theorem Branch.mem_slots_iff {slot : Slot} {branch : Branch} :
    slot ∈ branch.slots ↔ branch.Contains (.slot slot) := by
  constructor
  · rw [branch.slots_eq]
    exact contains_of_mem_slotsOfNodes
  · rintro ⟨node, inside, contains⟩
    exact Branch.mem_slots_of_mem inside contains.mem_slots

/-! ### Branches from left to right -/

mutual

/-- The branches in a node, each in front of the branches inside it. -/
def Node.branchesWithin : Node → List Branch
  | .literal _ => []
  | .choice branches => branchesInAll branches
  | .optional branch => Branch.withInner branch
  | .slot _ => []

/-- The branch, and behind it the branches inside it. -/
def Branch.withInner : Branch → List Branch
  | .mk tag nodes => .mk tag nodes :: branchesInNodes nodes

/-- The branches in a sequence of nodes. -/
def branchesInNodes : List Node → List Branch
  | [] => []
  | node :: rest => Node.branchesWithin node ++ branchesInNodes rest

/-- The branches in a sequence of branches, these included. -/
def branchesInAll : List Branch → List Branch
  | [] => []
  | branch :: rest => Branch.withInner branch ++ branchesInAll rest

end

/-- The branches of all groups of the pattern, from left to right and each in front of those inside it. -/
def Pattern.branches (pattern : Pattern) : List Branch :=
  branchesInNodes pattern.nodes

theorem Branch.withInner_eq (branch : Branch) :
    branch.withInner = branch :: branchesInNodes branch.nodes := by
  cases branch
  rfl

theorem branchesInAll_eq_flatMap (branches : List Branch) :
    branchesInAll branches = branches.flatMap Branch.withInner := by
  induction branches with
  | nil => rfl
  | cons branch rest ih => rw [branchesInAll, List.flatMap_cons, ih]

theorem withInner_sublist_of_mem {branches : List Branch} {branch : Branch}
    (listed : branch ∈ branches) : branch.withInner.Sublist (branchesInAll branches) := by
  rw [branchesInAll_eq_flatMap]
  exact List.sublist_flatten_of_mem (List.mem_map_of_mem listed)

/-! ### Numbers of the slots of a built pattern -/

theorem Slot.index_of_resolve {lookup : TypeLookup} {slot resolved : Slot}
    (resolves : slot.resolve lookup = .ok resolved) : resolved.index = slot.index := by
  rw [Slot.resolve] at resolves
  split at resolves
  · cases resolves
  · cases resolves
    rfl

mutual

/-- Resolving a node leaves the numbers of its slots. -/
theorem Node.indices_of_resolve {lookup : TypeLookup} : ∀ {node resolved : Node},
    node.resolve lookup = .ok resolved →
      resolved.slots.map Slot.index = node.slots.map Slot.index
  | .literal _, _, resolves => by
      cases resolves
      rfl
  | .slot slot, _, resolves => by
      obtain ⟨here, found, rfl⟩ := map_eq_ok resolves
      exact congrArg (fun index => [index]) (Slot.index_of_resolve found)
  | .optional _, _, resolves => by
      obtain ⟨here, found, rfl⟩ := map_eq_ok resolves
      exact Branch.indices_of_resolve found
  | .choice _, _, resolves => by
      obtain ⟨here, found, rfl⟩ := map_eq_ok resolves
      exact indices_of_resolveBranches found

theorem Branch.indices_of_resolve {lookup : TypeLookup} : ∀ {branch resolved : Branch},
    branch.resolve lookup = .ok resolved →
      resolved.slots.map Slot.index = branch.slots.map Slot.index
  | .mk _ _, _, resolves => by
      obtain ⟨here, found, rfl⟩ := map_eq_ok resolves
      exact indices_of_resolveNodes found

theorem indices_of_resolveNodes {lookup : TypeLookup} : ∀ {nodes resolved : List Node},
    resolveNodes lookup nodes = .ok resolved →
      (slotsOfNodes resolved).map Slot.index = (slotsOfNodes nodes).map Slot.index
  | [], _, resolves => by
      cases resolves
      rfl
  | node :: rest, _, resolves => by
      obtain ⟨first, here, resolves⟩ := bind_eq_ok resolves
      obtain ⟨others, there, same⟩ := bind_eq_ok resolves
      cases same
      rw [slotsOfNodes, slotsOfNodes, List.map_append, List.map_append,
        Node.indices_of_resolve here, indices_of_resolveNodes there]

theorem indices_of_resolveBranches {lookup : TypeLookup} : ∀ {branches resolved : List Branch},
    resolveBranches lookup branches = .ok resolved →
      (slotsOfBranches resolved).map Slot.index = (slotsOfBranches branches).map Slot.index
  | [], _, resolves => by
      cases resolves
      rfl
  | branch :: rest, _, resolves => by
      obtain ⟨first, here, resolves⟩ := bind_eq_ok resolves
      obtain ⟨others, there, same⟩ := bind_eq_ok resolves
      cases same
      rw [slotsOfBranches, slotsOfBranches, List.map_append, List.map_append,
        Branch.indices_of_resolve here, indices_of_resolveBranches there]

end

namespace Pattern

/-- Patterns that can be come by: compiled from a text, and resolved. -/
inductive Built : Pattern → Prop where
  | compiled {source : String} {pattern : Pattern} (compiles : compile source = .ok pattern) :
      Built pattern
  | resolved {lookup : TypeLookup} {pattern resolved : Pattern} (built : Built pattern)
      (resolves : pattern.resolve lookup = .ok resolved) : Built resolved

/-- The slots of a built pattern are numbered in their order from zero, and none is left out. -/
theorem Built.indices {pattern : Pattern} (built : pattern.Built) :
    pattern.slots.map Slot.index = List.range pattern.slotCount := by
  induction built with
  | compiled compiles =>
      obtain ⟨counted, numbered⟩ := numbers_of_compile compiles
      rw [numbered, counted, Nat.zero_add, List.range_eq_range']
  | resolved built resolves ih =>
      rw [resolve] at resolves
      split at resolves
      · next nodes found =>
          cases resolves
          exact (indices_of_resolveNodes found).trans ih
      · cases resolves

section Places

variable {pattern : Pattern} (indices : pattern.slots.map Slot.index = List.range pattern.slotCount)
include indices

/-- A slot has the place in the order of slots that its number says. -/
theorem getElem?_index {slot : Slot} (listed : slot ∈ pattern.slots) :
    pattern.slots[slot.index]? = some slot ∧ slot.index < pattern.slotCount := by
  obtain ⟨place, found⟩ := List.getElem?_of_mem listed
  have numbered := congrArg (·[place]?) indices
  simp only [List.getElem?_map, found, Option.map_some] at numbered
  obtain ⟨bound, same⟩ := List.getElem?_eq_some_iff.1 numbered.symm
  rw [List.getElem_range] at same
  rw [List.length_range] at bound
  rw [← same]
  exact ⟨found, bound⟩

/-- No two slots have one number. -/
theorem eq_of_index {slot other : Slot} (listed : slot ∈ pattern.slots)
    (otherListed : other ∈ pattern.slots) (same : slot.index = other.index) : slot = other := by
  have here := (getElem?_index indices listed).1
  rw [same, (getElem?_index indices otherListed).1, Option.some.injEq] at here
  exact here.symm

end Places

end Pattern

end ScriptBridge
