import ScriptBridge.Context
/-!
Resolution as one pass over places. The slots of patterns stand at places, from left to right and pattern
after pattern. Resolving takes the places in order: it fails with the error of the first one whose type is
not known, and otherwise changes each slot by itself and nothing else. That holds of nodes, patterns and
entries alike, because an order of places is only ever cut into consecutive pieces.
-/

namespace ScriptBridge

/-! ### The first place that is refused -/

section

variable {π ε α β γ : Type}

/-- The value, unless a place is refused: then the error of the first such place. -/
def refuseFirst (refusal? : π → Option ε) (places : List π) (value : α) : Except ε α :=
  match places.findSome? refusal? with
  | none => .ok value
  | some error => .error error

variable {refusal? : π → Option ε} {places others : List π} {value : α}

theorem refuseFirst_nil (refusal? : π → Option ε) (value : α) :
    refuseFirst refusal? [] value = .ok value := rfl

/-- The value comes out exactly if no place is refused. -/
theorem refuseFirst_eq_ok_iff {made : α} :
    refuseFirst refusal? places value = .ok made
      ↔ (∀ place ∈ places, refusal? place = none) ∧ value = made := by
  unfold refuseFirst
  rw [← List.findSome?_eq_none_iff]
  split
  · next none_refused => simp [none_refused]
  · next error refused => simp [refused]

/-- An error comes out exactly if it is that of a place behind places none of which is refused. -/
theorem refuseFirst_eq_error_iff {error : ε} :
    refuseFirst refusal? places value = .error error
      ↔ ∃ before place after, places = before ++ place :: after
        ∧ (∀ earlier ∈ before, refusal? earlier = none) ∧ refusal? place = some error := by
  have first : refuseFirst refusal? places value = .error error
      ↔ places.findSome? refusal? = some error := by
    unfold refuseFirst
    split
    · next none_refused => simp [none_refused]
    · next other refused => simp [refused]
  rw [first, List.findSome?_eq_some_iff]
  constructor
  · rintro ⟨before, place, after, rfl, refused, passed⟩
    exact ⟨before, place, after, rfl, passed, refused⟩
  · rintro ⟨before, place, after, rfl, passed, refused⟩
    exact ⟨before, place, after, rfl, refused, passed⟩

theorem map_refuseFirst (change : α → β) :
    (refuseFirst refusal? places value).map change = refuseFirst refusal? places (change value) := by
  unfold refuseFirst
  split <;> rfl

/-- Places that are gone through one piece after the other are gone through in order. -/
theorem bind_refuseFirst {next : α → Except ε β} {made : β}
    (here : next value = refuseFirst refusal? others made) :
    (refuseFirst refusal? places value >>= next) = refuseFirst refusal? (places ++ others) made := by
  simp only [refuseFirst, List.findSome?_append] at here ⊢
  cases places.findSome? refusal? with
  | none => exact here
  | some error => rfl

/-- The places of one thing and then those of the next. -/
theorem bind_pure_refuseFirst {other : β} (make : α → β → γ) :
    (do
      let first ← refuseFirst refusal? places value
      let second ← refuseFirst refusal? others other
      pure (make first second)) = refuseFirst refusal? (places ++ others) (make value other) :=
  bind_refuseFirst (map_refuseFirst (make value))

theorem refuseFirst_map {ρ : Type} (place : ρ → π) (listed : List ρ) :
    refuseFirst refusal? (listed.map place) value = refuseFirst (refusal? ∘ place) listed value := by
  rw [refuseFirst, refuseFirst, List.findSome?_map]

end

/-! ### Patterns -/

mutual

/-- The node with its slots changed. -/
def Node.mapSlots (change : Slot → Slot) : Node → Node
  | .literal text => .literal text
  | .choice branches => .choice (mapBranches change branches)
  | .optional branch => .optional (branch.mapSlots change)
  | .slot slot => .slot (change slot)

/-- The branch with its slots changed. -/
def Branch.mapSlots (change : Slot → Slot) : Branch → Branch
  | .mk tag nodes => .mk tag (mapNodes change nodes)

/-- The nodes with their slots changed. -/
def mapNodes (change : Slot → Slot) : List Node → List Node
  | [] => []
  | node :: rest => node.mapSlots change :: mapNodes change rest

/-- The branches with their slots changed. -/
def mapBranches (change : Slot → Slot) : List Branch → List Branch
  | [] => []
  | branch :: rest => branch.mapSlots change :: mapBranches change rest

end

/-- The pattern with its slots changed. -/
def Pattern.mapSlots (change : Slot → Slot) (pattern : Pattern) : Pattern :=
  { pattern with nodes := mapNodes change pattern.nodes }

mutual

/-- The slots of a changed node are its slots, changed. -/
theorem Node.slots_mapSlots (change : Slot → Slot) : ∀ node : Node,
    (node.mapSlots change).slots = node.slots.map change
  | .literal text => by simp [Node.mapSlots, Node.slots]
  | .choice branches => by rw [Node.mapSlots, Node.slots, slotsOfBranches_map change branches, Node.slots]
  | .optional branch => by rw [Node.mapSlots, Node.slots, Branch.slots_mapSlots change branch, Node.slots]
  | .slot slot => by simp [Node.mapSlots, Node.slots]

theorem Branch.slots_mapSlots (change : Slot → Slot) : ∀ branch : Branch,
    (branch.mapSlots change).slots = branch.slots.map change
  | .mk tag nodes => by rw [Branch.mapSlots, Branch.slots, slotsOfNodes_map change nodes, Branch.slots]

theorem slotsOfNodes_map (change : Slot → Slot) : ∀ nodes : List Node,
    slotsOfNodes (mapNodes change nodes) = (slotsOfNodes nodes).map change
  | [] => by simp [mapNodes, slotsOfNodes]
  | node :: rest => by
      rw [mapNodes, slotsOfNodes, Node.slots_mapSlots change node, slotsOfNodes_map change rest,
        slotsOfNodes, List.map_append]

theorem slotsOfBranches_map (change : Slot → Slot) : ∀ branches : List Branch,
    slotsOfBranches (mapBranches change branches) = (slotsOfBranches branches).map change
  | [] => by simp [mapBranches, slotsOfBranches]
  | branch :: rest => by
      rw [mapBranches, slotsOfBranches, Branch.slots_mapSlots change branch,
        slotsOfBranches_map change rest, slotsOfBranches, List.map_append]

end

/-- The slots of a changed pattern are its slots, changed. -/
theorem Pattern.slots_mapSlots (change : Slot → Slot) (pattern : Pattern) :
    (pattern.mapSlots change).slots = pattern.slots.map change :=
  slotsOfNodes_map change pattern.nodes

namespace TypeLookup

/-- The slot with what its type name stands for. -/
def settle (lookup : TypeLookup) (slot : Slot) : Slot :=
  match lookup slot.typeName with
  | none => slot
  | some (key, plural) => { slot with key := some key, plural }

/-- The type name of the slot, if it stands for nothing. -/
def unknown? (lookup : TypeLookup) (slot : Slot) : Option String :=
  if (lookup slot.typeName).isNone then some slot.typeName else none

/-- The error for a slot of a pattern, if its type name stands for nothing. -/
def refusal? (lookup : TypeLookup) (place : Pattern × Slot) : Option RegistrationError :=
  (lookup.unknown? place.2).map fun name => .unknownType name place.1.source

end TypeLookup

section

variable (lookup : TypeLookup)

theorem Slot.resolve_eq (slot : Slot) :
    slot.resolve lookup = refuseFirst lookup.unknown? [slot] (lookup.settle slot) := by
  unfold Slot.resolve
  cases found : lookup slot.typeName with
  | none => simp [refuseFirst, TypeLookup.unknown?, found]
  | some found_type => simp [refuseFirst, TypeLookup.unknown?, TypeLookup.settle, found]

mutual

/-- Resolving a node goes through its slots in order. -/
theorem Node.resolve_eq : ∀ node : Node,
    node.resolve lookup = refuseFirst lookup.unknown? node.slots (node.mapSlots lookup.settle)
  | .literal text => by
      rw [Node.resolve, Node.slots, Node.mapSlots, refuseFirst_nil]
  | .choice branches => by
      rw [Node.resolve, resolveBranches_eq branches, map_refuseFirst, Node.slots, Node.mapSlots]
  | .optional branch => by
      rw [Node.resolve, Branch.resolve_eq branch, map_refuseFirst, Node.slots, Node.mapSlots]
  | .slot slot => by
      rw [Node.resolve, Slot.resolve_eq, map_refuseFirst, Node.slots, Node.mapSlots]

/-- So does resolving a branch. -/
theorem Branch.resolve_eq : ∀ branch : Branch,
    branch.resolve lookup = refuseFirst lookup.unknown? branch.slots (branch.mapSlots lookup.settle)
  | .mk tag nodes => by
      rw [Branch.resolve, resolveNodes_eq nodes, map_refuseFirst, Branch.slots, Branch.mapSlots]

theorem resolveNodes_eq : ∀ nodes : List Node,
    resolveNodes lookup nodes
      = refuseFirst lookup.unknown? (slotsOfNodes nodes) (mapNodes lookup.settle nodes)
  | [] => by
      rw [resolveNodes, slotsOfNodes, mapNodes, refuseFirst_nil]
  | node :: rest => by
      rw [resolveNodes, Node.resolve_eq node, resolveNodes_eq rest, bind_pure_refuseFirst,
        slotsOfNodes, mapNodes]

theorem resolveBranches_eq : ∀ branches : List Branch,
    resolveBranches lookup branches
      = refuseFirst lookup.unknown? (slotsOfBranches branches) (mapBranches lookup.settle branches)
  | [] => by
      rw [resolveBranches, slotsOfBranches, mapBranches, refuseFirst_nil]
  | branch :: rest => by
      rw [resolveBranches, Branch.resolve_eq branch, resolveBranches_eq rest, bind_pure_refuseFirst,
        slotsOfBranches, mapBranches]

end

end

/-- The slots of patterns, each with its pattern, pattern after pattern and from left to right. -/
def placesOf (patterns : List Pattern) : List (Pattern × Slot) :=
  patterns.flatMap fun pattern => pattern.slots.map (pattern, ·)

theorem placesOf_append (patterns others : List Pattern) :
    placesOf (patterns ++ others) = placesOf patterns ++ placesOf others :=
  List.flatMap_append ..

section

variable (lookup : TypeLookup)

/-- Resolving a pattern goes through its slots, and names the pattern in the error. -/
theorem Pattern.resolve_eq (pattern : Pattern) :
    pattern.resolve lookup
      = refuseFirst lookup.refusal? (pattern.slots.map (pattern, ·)) (pattern.mapSlots lookup.settle) := by
  have named : pattern.slots.findSome? (lookup.refusal? ∘ (pattern, ·))
      = (pattern.slots.findSome? lookup.unknown?).map (.unknownType · pattern.source) := by
    rw [List.map_findSome?]
    rfl
  rw [Pattern.resolve, resolveNodes_eq, refuseFirst_map, refuseFirst, refuseFirst, named, Pattern.slots]
  cases (slotsOfNodes pattern.nodes).findSome? lookup.unknown? <;> rfl

/-- Resolving patterns goes through the places of their slots. -/
theorem resolvePatterns_eq (patterns : List Pattern) :
    resolvePatterns lookup patterns
      = refuseFirst lookup.refusal? (placesOf patterns) (patterns.map (·.mapSlots lookup.settle)) := by
  induction patterns with
  | nil => rfl
  | cons pattern rest ih =>
      rw [resolvePatterns, Pattern.resolve_eq, ih, bind_pure_refuseFirst]
      rfl

/-! ### Entries -/

/-- Whatever resolves the patterns of entries one entry after the other goes through the places of all their
slots in order. -/
theorem resolve_each {ρ : Type} (patternsOf : ρ → List Pattern) (withPatterns : ρ → List Pattern → ρ)
    (resolve : List ρ → Except RegistrationError (List ρ)) (nil : resolve [] = .ok [])
    (cons : ∀ entry rest, resolve (entry :: rest) = do
      let patterns ← resolvePatterns lookup (patternsOf entry)
      let rest ← resolve rest
      pure (withPatterns entry patterns :: rest)) (entries : List ρ) :
    resolve entries = refuseFirst lookup.refusal? (placesOf (entries.flatMap patternsOf))
      (entries.map fun entry =>
        withPatterns entry ((patternsOf entry).map (·.mapSlots lookup.settle))) := by
  induction entries with
  | nil => exact nil
  | cons entry rest ih =>
      rw [cons, resolvePatterns_eq, ih, bind_pure_refuseFirst, List.flatMap_cons, placesOf_append]
      rfl

end

/-- The entry with the slots of its patterns changed. -/
def WrapperEntry.mapSlots (change : Slot → Slot) (entry : WrapperEntry) : WrapperEntry :=
  { entry with patterns := entry.patterns.map (·.mapSlots change) }

/-- The entry with the slots of its patterns changed. -/
def EffectEntry.mapSlots (change : Slot → Slot) (entry : EffectEntry) : EffectEntry :=
  { entry with patterns := entry.patterns.map (·.mapSlots change) }

/-- The entry with the slots of its patterns changed. -/
def ExpressionEntry.mapSlots (change : Slot → Slot) (entry : ExpressionEntry) : ExpressionEntry :=
  { entry with patterns := entry.patterns.map (·.mapSlots change) }

theorem resolveEntries_eq (lookup : TypeLookup) (entries : List WrapperEntry) :
    WrapperRegistry.resolveEntries lookup entries
      = refuseFirst lookup.refusal? (placesOf (entries.flatMap (·.patterns)))
        (entries.map (·.mapSlots lookup.settle)) :=
  resolve_each lookup (·.patterns) (fun entry patterns => { entry with patterns })
    (WrapperRegistry.resolveEntries lookup) rfl (fun _ _ => rfl) entries

theorem resolveEffects_eq (lookup : TypeLookup) (entries : List EffectEntry) :
    Grammar.resolveEffects lookup entries
      = refuseFirst lookup.refusal? (placesOf (entries.flatMap (·.patterns)))
        (entries.map (·.mapSlots lookup.settle)) :=
  resolve_each lookup (·.patterns) (fun entry patterns => { entry with patterns })
    (Grammar.resolveEffects lookup) rfl (fun _ _ => rfl) entries

theorem resolveExpressions_eq (lookup : TypeLookup) (entries : List ExpressionEntry) :
    Grammar.resolveExpressions lookup entries
      = refuseFirst lookup.refusal? (placesOf (entries.flatMap (·.patterns)))
        (entries.map (·.mapSlots lookup.settle)) :=
  resolve_each lookup (·.patterns) (fun entry patterns => { entry with patterns })
    (Grammar.resolveExpressions lookup) rfl (fun _ _ => rfl) entries

end ScriptBridge
