import ScriptBridge.Parsing.Search
/-!
What it takes for a text to be read as an effect. Entries that come first take precedence. A pattern
that begins with a word matches only texts that begin with it, and a sequence of words matches only the
text that spells them.
-/

namespace ScriptBridge.Parsing

/-- The effect that an entry makes of a text with one of its patterns. -/
def madeOf (session : Session) (candidate : EffectEntry × Nat × Pattern) : Option Effect :=
  (session.match? candidate.2.1 candidate.2.2).bind candidate.1.factory

/-- The effect that the first of the entries to accept a text makes of it. -/
def effectOf (session : Session) (entries : List EffectEntry) : Option Effect :=
  (effectCandidates entries).findSome? (madeOf session)

theorem effectOf_append (session : Session) (entries others : List EffectEntry) :
    effectOf session (entries ++ others)
      = (effectOf session entries).or (effectOf session others) := by
  rw [effectOf, effectCandidates, List.flatMap_append, List.findSome?_append]
  rfl

theorem of_mem_effectCandidates {entries : List EffectEntry}
    {candidate : EffectEntry × Nat × Pattern} (listed : candidate ∈ effectCandidates entries) :
    candidate.1 ∈ entries ∧ candidate.2.2 ∈ candidate.1.patterns := by
  obtain ⟨entry, member, listed⟩ := List.mem_flatMap.1 listed
  obtain ⟨⟨pattern, number⟩, numbered, rfl⟩ := List.mem_map.1 listed
  exact ⟨member, List.fst_mem_of_mem_zipIdx numbered⟩

/-- What is made of a text is made by one of the entries. -/
theorem exists_factory_of_effectOf {session : Session} {entries : List EffectEntry} {effect : Effect}
    (made : effectOf session entries = some effect) :
    ∃ entry ∈ entries, ∃ found, entry.factory found = some effect := by
  obtain ⟨candidate, listed, made⟩ := List.exists_of_findSome?_eq_some made
  obtain ⟨found, -, made⟩ := Option.bind_eq_some_iff.1 made
  exact ⟨candidate.1, (of_mem_effectCandidates listed).1, found, made⟩

/-- What a line was read as: by which entry, with which match, and as which effect. -/
structure Acceptance where
  entry : EffectEntry
  found : Match
  effect : Effect

/-- What an entry of effects accepts with one of its patterns. -/
def acceptance? (session : Session) (entry : EffectEntry) (number : Nat) (pattern : Pattern) :
    Option Acceptance :=
  (session.match? number pattern).bind fun found =>
    (entry.factory found).map fun effect => { entry, found, effect }

/-- What an attempt led to, if anything. -/
def Attempt.accepted? (attempt : Attempt) : Option Acceptance :=
  attempt.effect.map fun effect => { entry := attempt.entry, found := attempt.found, effect }

/-- The last attempt is the one that led to anything, if any did. -/
theorem attempts_accepted (session : Session) (candidates : List (EffectEntry × Nat × Pattern)) :
    (attempts session candidates).getLast?.bind Attempt.accepted?
      = candidates.findSome? fun (entry, number, pattern) => acceptance? session entry number pattern := by
  induction candidates with
  | nil => rfl
  | cons candidate rest ih =>
      obtain ⟨entry, number, pattern⟩ := candidate
      rw [attempts, List.findSome?_cons]
      simp only [acceptance?]
      cases session.match? number pattern with
      | none => exact ih
      | some found =>
          simp only [Option.bind_some]
          cases refused : entry.factory found with
          | some effect => rfl
          | none =>
              -- behind a refusal, what the later attempts led to counts
              simp only [List.getLast?_cons, Option.map_none]
              refine Eq.trans ?_ ih
              cases (attempts session rest).getLast? with
              | none => rfl
              | some last => rfl

/-- The effect that the last attempt made is that of what it led to. -/
theorem getLast?_effect (made : List Attempt) :
    made.getLast?.bind Attempt.effect
      = (made.getLast?.bind Attempt.accepted?).map Acceptance.effect := by
  cases made.getLast? with
  | none => rfl
  | some last =>
      obtain ⟨entry, found, effect⟩ := last
      cases effect <;> rfl

theorem madeOf_eq (session : Session) (candidate : EffectEntry × Nat × Pattern) :
    madeOf session candidate
      = (acceptance? session candidate.1 candidate.2.1 candidate.2.2).map Acceptance.effect := by
  rw [madeOf, acceptance?]
  cases session.match? candidate.2.1 candidate.2.2 with
  | none => rfl
  | some found =>
      rw [Option.bind_some, Option.bind_some, Option.map_map]
      exact Option.map_id'.symm

/-- The effect that the last attempt made is that of the first entry to accept the text. -/
theorem attempts_effect (session : Session) (candidates : List (EffectEntry × Nat × Pattern)) :
    (attempts session candidates).getLast?.bind Attempt.effect
      = candidates.findSome? (madeOf session) := by
  rw [getLast?_effect, attempts_accepted, List.map_findSome?]
  exact congrArg (List.findSome? · candidates) (funext fun candidate => (madeOf_eq _ candidate).symm)

/-- The effect that a line is read as is that of the first entry to accept it. -/
theorem searchEffect_effect? (registries : Registries) (world : World) (text : String)
    (options : ParseOptions) :
    (registries.searchEffect world text options).effect?
      = effectOf (Session.ofText registries world options text) registries.grammar.effects :=
  attempts_effect _ _

/-- From a position on, the tokens are these words, up to the case of ASCII letters. -/
def spells (tokens : List Token) (start : Nat) : List String → Bool
  | [] => start == tokens.length
  | word :: words => tokens[start]?.any (·.isLiteral word) && spells tokens (start + 1) words

variable {read : SlotReader} {tokens : List Token}

theorem matchLiteral_eq (literal : String) (next : Continuation) (start : Nat) :
    matchLiteral tokens literal next start
      = if tokens[start]?.any (·.isLiteral literal) then next (start + 1) else none := by
  rw [matchLiteral]
  cases tokens[start]? with
  | none => rfl
  | some token => rfl

/-- A sequence of words matches the text that spells them. -/
theorem matchNodes_words (words : List String) (start : Nat) :
    matchNodes read tokens (words.map .literal) (matchEnd tokens) start
      = if spells tokens start words then some {} else none := by
  induction words generalizing start with
  | nil =>
      rw [List.map_nil, matchNodes, matchEnd, spells]
      simp
  | cons word words ih =>
      rw [List.map_cons, matchNodes, matchNode, matchLiteral_eq, ih, spells]
      cases tokens[start]?.any (·.isLiteral word) with
      | false => rfl
      | true => rfl

/-- A token is no two words that differ in more than the case of ASCII letters. -/
theorem sameIgnoringCase_of_isLiteral {token : Token} {word other : String}
    (first : token.isLiteral word = true) (second : token.isLiteral other = true) :
    Text.sameIgnoringCase word other = true := by
  simp only [Token.isLiteral, Text.sameIgnoringCase, Bool.and_eq_true, beq_iff_eq] at first second ⊢
  rw [← first.2, ← second.2]

/-- Whether the token at the position is one of these words. -/
def beginsWith (tokens : List Token) (start : Nat) (words : List String) : Bool :=
  words.any fun word => tokens[start]?.any (·.isLiteral word)

theorem not_beginsWith {start : Nat} {word : String} {rest words : List String}
    (spelled : spells tokens start (word :: rest) = true)
    (apart : ∀ other ∈ words, Text.sameIgnoringCase word other = false) :
    beginsWith tokens start words = false := by
  rw [spells, Bool.and_eq_true] at spelled
  rw [beginsWith, List.any_eq_false]
  intro other listed
  cases found : tokens[start]? with
  | none => simp
  | some token =>
      rw [found, Option.any_some] at spelled
      intro same
      have equal := sameIgnoringCase_of_isLiteral spelled.1 same
      rw [apart other listed] at equal
      cases equal

/-- Whether a branch is one of these words and nothing else. -/
def isWordBranch (words : List String) : Branch → Bool
  | .mk _ [.literal word] => words.contains word
  | _ => false

/-- Whether a sequence of nodes begins with one of these words. -/
def opensWith (words : List String) : List Node → Bool
  | .literal word :: _ => words.contains word
  | .choice branches :: _ => branches.all (isWordBranch words)
  | _ => false

theorem beginsWith_of_matchLiteral {words : List String} {word : String} {next : Continuation}
    {start : Nat} {bindings : Bindings} (listed : words.contains word = true)
    (matched : matchLiteral tokens word next start = some bindings) :
    beginsWith tokens start words = true := by
  rw [matchLiteral_eq] at matched
  split at matched
  · next same => exact List.any_eq_true.2 ⟨word, List.contains_iff_mem.1 listed, same⟩
  · cases matched

theorem beginsWith_of_isWordBranch {words : List String} {branch : Branch} {next : Continuation}
    {start : Nat} {bindings : Bindings} (isWord : isWordBranch words branch = true)
    (matched : matchBranch read tokens branch next start = some bindings) :
    beginsWith tokens start words = true := by
  unfold isWordBranch at isWord
  split at isWord
  · next tag word =>
      rw [matchBranch] at matched
      obtain ⟨inner, matched, -⟩ := Option.map_eq_some_iff.1 matched
      rw [matchNodes, matchNode] at matched
      exact beginsWith_of_matchLiteral isWord matched
  · cases isWord

/-- Nodes that begin with words match only what begins with one of them. -/
theorem beginsWith_of_opensWith {words : List String} {nodes : List Node} {next : Continuation}
    {start : Nat} {bindings : Bindings} (opens : opensWith words nodes = true)
    (matched : matchNodes read tokens nodes next start = some bindings) :
    beginsWith tokens start words = true := by
  cases nodes with
  | nil => cases opens
  | cons node rest =>
      rw [matchNodes] at matched
      cases node with
      | literal word =>
          rw [matchNode] at matched
          exact beginsWith_of_matchLiteral opens matched
      | optional branch => cases opens
      | slot slot => cases opens
      | choice branches =>
          rw [matchNode] at matched
          rw [opensWith] at opens
          induction branches with
          | nil => cases matched
          | cons branch others ih =>
              rw [List.all_cons, Bool.and_eq_true] at opens
              rw [matchAnyBranch] at matched
              split at matched
              · next here => exact beginsWith_of_isWordBranch opens.1 here
              · exact ih opens.2 matched

/-- An entry whose patterns begin with words takes only texts that begin with one of them. -/
theorem effectOf_eq_none {session : Session} {entry : EffectEntry} {words : List String}
    (opens : ∀ pattern ∈ entry.patterns, opensWith words pattern.nodes = true)
    (begins : beginsWith session.tokens 0 words = false) : effectOf session [entry] = none := by
  refine List.findSome?_eq_none_iff.2 fun candidate listed => ?_
  obtain ⟨member, pattern⟩ := of_mem_effectCandidates listed
  rw [List.mem_singleton.1 member] at pattern
  cases matched : session.match? candidate.2.1 candidate.2.2 with
  | none => rw [madeOf, matched, Option.bind_none]
  | some found =>
      obtain ⟨bindings, matched, -⟩ := Option.map_eq_some_iff.1 matched
      have impossible := beginsWith_of_opensWith (opens _ pattern) matched
      rw [begins] at impossible
      cases impossible

end ScriptBridge.Parsing
