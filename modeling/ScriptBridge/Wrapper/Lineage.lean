import ScriptBridge.Table
import ScriptBridge.TypeKey
/-!
Lineages. An interface may have parent interfaces; the lineage of a wrapper is the wrapper itself,
followed by everything reachable from its bases, breadth first and each key once. An interface leaves
the graph when it is expanded, so the walk ends on cyclic graphs too.
-/

namespace ScriptBridge

/-- The direct parents of each interface, in the order in which they were declared. -/
abbrev InterfaceGraph := Table TypeKey (List TypeKey)

namespace InterfaceGraph

/-- The parents of an interface. -/
def parents (graph : InterfaceGraph) (key : TypeKey) : List TypeKey :=
  (graph.get? key).getD []

/-- Declares further parents of an interface. -/
def declare (graph : InterfaceGraph) (key : TypeKey) (parents : List TypeKey) : InterfaceGraph :=
  graph.insert key (graph.parents key ++ parents)

/-- The number of edges that leave the listed interfaces. -/
def edgeCount : List (TypeKey × List TypeKey) → Nat
  | [] => 0
  | (_, parents) :: rest => parents.length + edgeCount rest

theorem edgeCount_filter_le (entries : List (TypeKey × List TypeKey))
    (keep : TypeKey × List TypeKey → Bool) : edgeCount (entries.filter keep) ≤ edgeCount entries := by
  induction entries with
  | nil => simp [edgeCount]
  | cons entry rest ih =>
    obtain ⟨key, parents⟩ := entry
    rw [List.filter_cons]
    split <;> simp only [edgeCount] <;> omega

theorem length_find_add_edgeCount_filter_le (entries : List (TypeKey × List TypeKey))
    (key : TypeKey) :
    ((Table.find key entries).getD []).length + edgeCount (entries.filter (·.1 ≠ key))
      ≤ edgeCount entries := by
  induction entries with
  | nil => simp [Table.find, edgeCount]
  | cons entry rest ih =>
    obtain ⟨other, parents⟩ := entry
    by_cases h : other = key
    · subst h
      have := edgeCount_filter_le rest (·.1 ≠ other)
      simp [Table.find, edgeCount]
      simp only [ne_eq, decide_not] at this
      omega
    · simp [Table.find, edgeCount, h]
      simp only [ne_eq, decide_not] at ih
      omega

/-- Walks the graph breadth first from the queued keys, leaving out those already seen. -/
def walk (graph : InterfaceGraph) (seen : List TypeKey) (queue : List TypeKey) : List TypeKey :=
  match queue with
  | [] => []
  | key :: queue =>
    if seen.contains key then walk graph seen queue
    else key :: walk (graph.erase key) (key :: seen) (queue ++ graph.parents key)
termination_by edgeCount graph.entries + queue.length
decreasing_by
  · simp
  · have := length_find_add_edgeCount_filter_le graph.entries key
    simp only [parents, Table.get?, Table.erase, List.length_append, List.length_cons] at *
    omega

/-- The lineage of a wrapper with these bases. -/
def lineage (graph : InterfaceGraph) (wrapper : TypeKey) (bases : List TypeKey) : List TypeKey :=
  wrapper :: walk graph [wrapper] bases

end InterfaceGraph

end ScriptBridge
