import ScriptBridge.Context
import ScriptBridge.Proofs.Parsing.Wording
/-!
What closing the registries makes of the effects: their slots are resolved, and all else stays as it was
registered, the order of the entries and the words that patterns begin with included.
-/

namespace ScriptBridge

theorem bind_eq_ok {ε α β : Type} {result : Except ε α} {next : α → Except ε β} {value : β}
    (succeeds : (result >>= next) = .ok value) :
    ∃ first, result = .ok first ∧ next first = .ok value := by
  cases result with
  | error error => cases succeeds
  | ok first => exact ⟨first, rfl, succeeds⟩

theorem map_eq_ok {ε α β : Type} {result : Except ε α} {change : α → β} {value : β}
    (succeeds : result.map change = .ok value) : ∃ first, result = .ok first ∧ change first = value := by
  cases result with
  | error error => cases succeeds
  | ok first => exact ⟨first, rfl, Except.ok.inj succeeds⟩

theorem resolveBranches_words {words : List String} {lookup : TypeLookup} {branches : List Branch}
    (isWords : branches.all (Parsing.isWordBranch words) = true) :
    resolveBranches lookup branches = .ok branches := by
  induction branches with
  | nil => rfl
  | cons branch others ih =>
      rw [List.all_cons, Bool.and_eq_true] at isWords
      rw [resolveBranches, ih isWords.2]
      have isWord := isWords.1
      unfold Parsing.isWordBranch at isWord
      split at isWord
      · rfl
      · cases isWord

/-- Resolving slots leaves the words that a sequence of nodes begins with. -/
theorem opensWith_of_resolveNodes {words : List String} {lookup : TypeLookup}
    {nodes resolved : List Node} (opens : Parsing.opensWith words nodes = true)
    (resolves : resolveNodes lookup nodes = .ok resolved) :
    Parsing.opensWith words resolved = true := by
  cases nodes with
  | nil => cases opens
  | cons node rest =>
      rw [resolveNodes] at resolves
      obtain ⟨first, here, resolves⟩ := bind_eq_ok resolves
      obtain ⟨others, -, same⟩ := bind_eq_ok resolves
      cases same
      cases node with
      | literal word =>
          cases here
          exact opens
      | optional branch => cases opens
      | slot slot => cases opens
      | choice branches =>
          rw [Node.resolve, resolveBranches_words opens] at here
          cases here
          exact opens

theorem resolvePatterns_opensWith {words : List String} {lookup : TypeLookup}
    {patterns resolved : List Pattern}
    (opens : ∀ pattern ∈ patterns, Parsing.opensWith words pattern.nodes = true)
    (resolves : resolvePatterns lookup patterns = .ok resolved) :
    ∀ pattern ∈ resolved, Parsing.opensWith words pattern.nodes = true := by
  induction patterns generalizing resolved with
  | nil =>
      cases resolves
      exact opens
  | cons pattern rest ih =>
      rw [resolvePatterns] at resolves
      obtain ⟨first, here, resolves⟩ := bind_eq_ok resolves
      obtain ⟨others, behind, same⟩ := bind_eq_ok resolves
      cases same
      intro listed_pattern listed
      rcases List.mem_cons.1 listed with same | listed
      · subst same
        rw [Pattern.resolve] at here
        split at here
        · next nodes resolved_nodes =>
            cases here
            exact opensWith_of_resolveNodes (opens pattern (List.mem_cons_self ..)) resolved_nodes
        · cases here
      · exact ih (fun other member => opens other (List.mem_cons_of_mem _ member)) behind
          listed_pattern listed

namespace Grammar

theorem resolveEffects_append {lookup : TypeLookup} {entries others resolved : List EffectEntry}
    (resolves : resolveEffects lookup (entries ++ others) = .ok resolved) :
    ∃ first second, resolveEffects lookup entries = .ok first
      ∧ resolveEffects lookup others = .ok second ∧ resolved = first ++ second := by
  induction entries generalizing resolved with
  | nil => exact ⟨[], resolved, rfl, resolves, rfl⟩
  | cons entry rest ih =>
      rw [List.cons_append, resolveEffects] at resolves
      obtain ⟨patterns, here, resolves⟩ := bind_eq_ok resolves
      obtain ⟨behind, there, same⟩ := bind_eq_ok resolves
      obtain ⟨first, second, resolved_first, resolved_second, rfl⟩ := ih there
      cases same
      refine ⟨{ entry with patterns } :: first, second, ?_, resolved_second, rfl⟩
      rw [resolveEffects, here, resolved_first]
      rfl

/-- Expressions are no effects. -/
theorem effects_of_addExpression {grammar extended : Grammar} {name : String}
    {patterns : List String} {type : TypeKey} {factory : Match → Option Expression}
    (added : grammar.addExpression name patterns type factory = .ok extended) :
    extended.effects = grammar.effects := by
  rw [addExpression] at added
  split at added
  · cases added
  · cases added
    rfl

theorem effects_of_addEventValues {values : EventValues} {grammar extended : Grammar}
    {infos : List TypeInfo} (added : addEventValues values grammar infos = .ok extended) :
    extended.effects = grammar.effects := by
  induction infos generalizing grammar with
  | nil =>
      cases added
      rfl
  | cons info rest ih =>
      rw [addEventValues] at added
      split at added
      · split at added
        · cases added
        · next grown here => rw [ih added, effects_of_addExpression here]
      · exact ih added

/-- Frozen effects are those that were registered, resolved. -/
theorem resolves_of_complete {grammar completed : Grammar} {types : TypeRegistry}
    {values : EventValues} (completes : grammar.complete types values = .ok completed) :
    resolveEffects types.slotType grammar.effects = .ok completed.effects := by
  rw [complete] at completes
  obtain ⟨grown, added, completes⟩ := bind_eq_ok completes
  obtain ⟨effects, resolves, completes⟩ := bind_eq_ok completes
  obtain ⟨expressions, -, same⟩ := bind_eq_ok completes
  cases same
  rw [← effects_of_addEventValues added]
  exact resolves

end Grammar

/-- The effects in closed registries are those that were registered, resolved. -/
theorem Registrar.resolves_of_close {registrar : Registrar} {context : SealedContext}
    (closes : registrar.close = .ok context) :
    Grammar.resolveEffects registrar.types.slotType registrar.grammar.effects
      = .ok context.registries.grammar.effects := by
  obtain ⟨registries, frozen, same⟩ := map_eq_ok closes
  subst same
  obtain ⟨wrappers, -, frozen⟩ := bind_eq_ok frozen
  obtain ⟨grammar, completes, same⟩ := bind_eq_ok frozen
  cases same
  exact Grammar.resolves_of_complete completes

end ScriptBridge
