import Mathlib.Algebra.BigOperators.Group.List.Basic
import Mathlib.Algebra.Ring.Int.Defs
import ScriptBridge.Parsing.ListItems
/-!
The grammar of lists. Commas and the word `and` separate items where no parenthesis is open; between two
items stands one of them, or a comma and then the word. Main statement: a window is taken apart just if it
is a list of two items or more in which no parenthesis is closed before it is opened, and the items are
those of the list. The loop goes from left to right with the item that it is in, so what it comes to from
some token on is told by what can still follow there.
-/

namespace ScriptBridge.Parsing

/-- The token is this mark. -/
def IsMark (token : Token) (mark : String) : Prop :=
  token.kind = .punct ∧ token.text = mark

instance (token : Token) (mark : String) : Decidable (IsMark token mark) :=
  inferInstanceAs (Decidable (_ ∧ _))

/-- The token is the word `and`, up to the case of ASCII letters. -/
def IsAnd (token : Token) : Prop :=
  token.kind = .word ∧ Text.sameIgnoringCase token.text "and" = true

instance (token : Token) : Decidable (IsAnd token) :=
  inferInstanceAs (Decidable (_ ∧ _))

/-- How many parentheses a token opens; one that it closes counts against that. -/
def opens (token : Token) : Int :=
  if IsMark token "(" then 1 else if IsMark token ")" then -1 else 0

/-- How many parentheses are open in front of a place. -/
def depthAt (tokens : List Token) (place : Nat) : Int :=
  ((tokens.take place).map opens).sum

/-- A comma separates at this place. -/
def CommaAt (tokens : List Token) (place : Nat) : Prop :=
  depthAt tokens place = 0 ∧ ∃ token, tokens[place]? = some token ∧ IsMark token ","

/-- The word `and` separates at this place. -/
def AndAt (tokens : List Token) (place : Nat) : Prop :=
  depthAt tokens place = 0 ∧ ∃ token, tokens[place]? = some token ∧ IsAnd token

/-- A token separates at this place. -/
def SeparatorAt (tokens : List Token) (place : Nat) : Prop :=
  CommaAt tokens place ∨ AndAt tokens place

/-- What stands between two items: a comma, the word `and`, or a comma and right behind it the word. -/
inductive Joins (tokens : List Token) (stop : Nat) : Nat → Prop where
  | comma (here : CommaAt tokens stop) : Joins tokens stop (stop + 1)
  | conjunction (here : AndAt tokens stop) : Joins tokens stop (stop + 1)
  | both (here : CommaAt tokens stop) (behind : AndAt tokens (stop + 1)) : Joins tokens stop (stop + 2)

/-- An item: one token or more, none of which separates. -/
structure IsItem (tokens : List Token) (start stop : Nat) : Prop where
  nonempty : start < stop
  whole : ∀ place, start ≤ place → place < stop → ¬ SeparatorAt tokens place

/-- From a place to the end, the tokens are these items with separators between them. -/
inductive ListFrom (tokens : List Token) : Nat → List (Nat × Nat) → Prop where
  | last {start : Nat} (item : IsItem tokens start tokens.length) :
      ListFrom tokens start [(start, tokens.length)]
  | more {start stop next : Nat} {parts : List (Nat × Nat)} (item : IsItem tokens start stop)
      (joins : Joins tokens stop next) (rest : ListFrom tokens next parts) :
      ListFrom tokens start ((start, stop) :: parts)

theorem Joins.separates {tokens : List Token} {stop next : Nat} (joins : Joins tokens stop next) :
    SeparatorAt tokens stop := by
  cases joins with
  | comma here => exact .inl here
  | conjunction here => exact .inr here
  | both here behind => exact .inl here

/-! ### Marks and depths -/

section Marks

variable {token : Token} {mark other : String}

theorem listMark_eq (token : Token) : listMark token
    = if IsMark token "(" then .opening
      else if IsMark token ")" then .closing
      else if IsMark token "," then .comma
      else if IsAnd token then .conjunction
      else .content := by
  obtain ⟨kind, text, start, stop⟩ := token
  cases kind with
  | punct => simp [listMark, IsMark, IsAnd]
  | word => simp [listMark, IsMark, IsAnd, Token.isLiteral]
  | quoted => simp [listMark, IsMark, IsAnd]

/-- A mark is no other one. -/
theorem IsMark.ne (isMark : IsMark token mark) (differs : mark ≠ other) : ¬ IsMark token other :=
  fun isOther => differs (isMark.2.symm.trans isOther.2)

/-- The word is no mark. -/
theorem IsAnd.ne (isAnd : IsAnd token) : ¬ IsMark token mark :=
  fun isMark => TokenKind.noConfusion (isAnd.1.symm.trans isMark.1)

theorem listMark_eq_comma_iff : listMark token = .comma ↔ IsMark token "," := by
  rw [listMark_eq]
  constructor
  · intro same
    by_contra other
    rw [if_neg other] at same
    split_ifs at same
  · intro comma
    rw [if_neg (comma.ne (by decide)), if_neg (comma.ne (by decide)), if_pos comma]

theorem listMark_eq_conjunction_iff : listMark token = .conjunction ↔ IsAnd token := by
  rw [listMark_eq]
  constructor
  · intro same
    by_contra other
    rw [if_neg other] at same
    split_ifs at same
  · intro conjunction
    rw [if_neg conjunction.ne, if_neg conjunction.ne, if_neg conjunction.ne, if_pos conjunction]

theorem opens_eq (token : Token) : opens token
    = match listMark token with
      | .opening => 1
      | .closing => -1
      | _ => 0 := by
  rw [listMark_eq, opens]
  split_ifs <;> rfl

end Marks

section Depths

variable {tokens rest : List Token} {token : Token} {place : Nat}

theorem depthAt_succ (present : tokens[place]? = some token) :
    depthAt tokens (place + 1) = depthAt tokens place + opens token := by
  simp [depthAt, List.take_add_one, present]

theorem depthAt_of_length_le (behind : tokens.length ≤ place) :
    depthAt tokens place = depthAt tokens tokens.length := by
  rw [depthAt, depthAt, List.take_of_length_le behind, List.take_length]

theorem SeparatorAt.lt_length (separates : SeparatorAt tokens place) : place < tokens.length := by
  rcases separates with ⟨-, token, present, -⟩ | ⟨-, token, present, -⟩
  · exact (List.getElem?_eq_some_iff.1 present).1
  · exact (List.getElem?_eq_some_iff.1 present).1

/-- At the place of a token a separator stands just if no parenthesis is open and the token is one. -/
theorem separatorAt_iff (present : tokens[place]? = some token) :
    SeparatorAt tokens place
      ↔ depthAt tokens place = 0 ∧ (listMark token = .comma ∨ listMark token = .conjunction) := by
  simp [SeparatorAt, CommaAt, AndAt, present, listMark_eq_comma_iff, listMark_eq_conjunction_iff,
    and_or_left]

theorem commaAt_iff (present : tokens[place]? = some token) :
    CommaAt tokens place ↔ depthAt tokens place = 0 ∧ listMark token = .comma := by
  simp [CommaAt, present, listMark_eq_comma_iff]

theorem andAt_iff (present : tokens[place]? = some token) :
    AndAt tokens place ↔ depthAt tokens place = 0 ∧ listMark token = .conjunction := by
  simp [AndAt, present, listMark_eq_conjunction_iff]

end Depths

/-! ### The loop -/

/-- How far the loop has come: what is left of the tokens, how many parentheses are open, and where the
item begins that it is in. -/
structure Reached (tokens : List Token) (depth start index : Nat) (rest : List Token) : Prop where
  rest : tokens.drop index = rest
  within : index ≤ tokens.length
  depth : depthAt tokens index = depth
  begun : start ≤ index
  whole : ∀ place, start ≤ place → place < index → ¬ SeparatorAt tokens place

/-- Behind what joins two items at this place, the tokens are these items. -/
def ListBehind (tokens : List Token) (stop : Nat) (parts : List (Nat × Nat)) : Prop :=
  ∃ next, Joins tokens stop next ∧ ListFrom tokens next parts

/-- What the items from a place on can be. Right behind a comma that separates, the word `and` may still
stand in front of them. -/
def Resumes (tokens : List Token) (afterComma : Bool) (start index : Nat) (parts : List (Nat × Nat)) :
    Prop :=
  ListFrom tokens start parts
    ∨ (afterComma = true ∧ start = index ∧ AndAt tokens index ∧ ListFrom tokens (index + 1) parts)

namespace Reached

variable {tokens rest : List Token} {token : Token} {depth next start index : Nat}
  {parts : List (Nat × Nat)}

theorem present (reached : Reached tokens depth start index (token :: rest)) :
    tokens[index]? = some token := by
  rw [← List.head?_drop, reached.rest]
  rfl

theorem drop_succ (reached : Reached tokens depth start index (token :: rest)) :
    tokens.drop (index + 1) = rest := by
  rw [← List.drop_drop, reached.rest]
  rfl

theorem length_eq (reached : Reached tokens depth start index []) : index = tokens.length :=
  Nat.le_antisymm reached.within (List.drop_eq_nil_iff.1 reached.rest)

theorem lt_length (reached : Reached tokens depth start index (token :: rest)) :
    index < tokens.length :=
  (List.getElem?_eq_some_iff.1 reached.present).1

/-- The item goes on with a token that does not separate. -/
theorem further (reached : Reached tokens depth start index (token :: rest))
    (stays : ¬ SeparatorAt tokens index) (deep : depthAt tokens (index + 1) = next) :
    Reached tokens next start (index + 1) rest where
  rest := reached.drop_succ
  within := reached.lt_length
  depth := deep
  begun := Nat.le_succ_of_le reached.begun
  whole := by
    intro place later before
    rcases Nat.lt_succ_iff_lt_or_eq.1 before with before | rfl
    · exact reached.whole place later before
    · exact stays

/-- Behind a separator the next item begins. -/
theorem behind (reached : Reached tokens depth start index (token :: rest))
    (separates : SeparatorAt tokens index) : Reached tokens 0 (index + 1) (index + 1) rest where
  rest := reached.drop_succ
  within := reached.lt_length
  depth := by
    obtain ⟨level, mark⟩ := (separatorAt_iff reached.present).1 separates
    rw [depthAt_succ reached.present, level, opens_eq]
    rcases mark with comma | conjunction
    · rw [comma]
      rfl
    · rw [conjunction]
      rfl
  begun := Nat.le_refl _
  whole place later before := absurd later (Nat.not_le.2 before)

/-- An item goes on up to the next separator. -/
theorem listFrom_iff (reached : Reached tokens depth start index rest)
    (separates : SeparatorAt tokens index) :
    ListFrom tokens start parts
      ↔ start < index ∧ ∃ others, ListBehind tokens index others ∧ (start, index) :: others = parts := by
  constructor
  · intro list
    cases list with
    | last item => exact absurd separates (item.whole index reached.begun separates.lt_length)
    | @more start stop behind others item joins list =>
        obtain rfl : stop = index := by
          rcases Nat.lt_trichotomy stop index with before | same | later
          · exact absurd joins.separates (reached.whole stop (Nat.le_of_lt item.nonempty) before)
          · exact same
          · exact absurd separates (item.whole index reached.begun later)
        exact ⟨item.nonempty, others, ⟨behind, joins, list⟩, rfl⟩
  · rintro ⟨nonempty, others, ⟨behind, joins, list⟩, rfl⟩
    exact .more ⟨nonempty, reached.whole⟩ joins list

/-- The last item goes on up to the end. -/
theorem listFrom_length_iff (reached : Reached tokens depth start tokens.length []) :
    ListFrom tokens start parts ↔ start < tokens.length ∧ parts = [(start, tokens.length)] := by
  constructor
  · intro list
    cases list with
    | last item => exact ⟨item.nonempty, rfl⟩
    | @more start stop behind others item joins list =>
        exact absurd joins.separates
          (reached.whole stop (Nat.le_of_lt item.nonempty) joins.separates.lt_length)
  · rintro ⟨nonempty, rfl⟩
    exact .last ⟨nonempty, reached.whole⟩

/-- That no parenthesis is closed too early is known up to here. -/
theorem nonneg_iff (reached : Reached tokens depth start index rest) :
    (∀ place, index ≤ place → 0 ≤ depthAt tokens place)
      ↔ ∀ place, index + 1 ≤ place → 0 ≤ depthAt tokens place := by
  constructor
  · exact fun nonneg place later => nonneg place (Nat.le_of_succ_le later)
  · intro nonneg place later
    rcases Nat.eq_or_lt_of_le later with rfl | later
    · rw [reached.depth]
      exact Int.natCast_nonneg depth
    · exact nonneg place later

end Reached

section Resuming

variable {tokens : List Token} {start index : Nat} {parts : List (Nat × Nat)}

theorem resumes_false : Resumes tokens false start index parts ↔ ListFrom tokens start parts := by
  simp [Resumes]

theorem resumes_iff_of_not_andAt (apart : ¬ AndAt tokens index) (afterComma : Bool) :
    Resumes tokens afterComma start index parts ↔ ListFrom tokens start parts := by
  simp [Resumes, apart]

/-- A comma may be followed by the word. -/
theorem listBehind_of_comma (comma : CommaAt tokens index) (apart : ¬ AndAt tokens index) :
    ListBehind tokens index parts ↔ Resumes tokens true (index + 1) (index + 1) parts := by
  constructor
  · rintro ⟨next, joins, list⟩
    cases joins with
    | comma => exact .inl list
    | conjunction here => exact absurd here apart
    | both _ behind => exact .inr ⟨rfl, rfl, behind, list⟩
  · rintro (list | ⟨-, -, behind, list⟩)
    · exact ⟨index + 1, .comma comma, list⟩
    · exact ⟨index + 2, .both comma behind, list⟩

/-- The word is followed by an item. -/
theorem listBehind_of_and (conjunction : AndAt tokens index) (apart : ¬ CommaAt tokens index) :
    ListBehind tokens index parts ↔ Resumes tokens false (index + 1) (index + 1) parts := by
  rw [resumes_false]
  constructor
  · rintro ⟨next, joins, list⟩
    cases joins with
    | comma here => exact absurd here apart
    | conjunction => exact list
    | both here => exact absurd here apart
  · exact fun list => ⟨index + 1, .conjunction conjunction, list⟩

end Resuming

/-- From this state of the loop on, what is split off are items that can still follow, if no parenthesis is
closed too early. -/
def Follows (tokens : List Token) (depth start index : Nat) (rest : List Token) : Prop :=
  ∀ (afterComma : Bool) (parts : List (Nat × Nat)),
    splitFrom depth afterComma start index rest = some parts
      ↔ (∀ place, index ≤ place → 0 ≤ depthAt tokens place) ∧ Resumes tokens afterComma start index parts

section Steps

variable {tokens rest : List Token} {token : Token} {depth start index : Nat}

theorem Reached.follows_nil (reached : Reached tokens depth start index []) :
    Follows tokens depth start index [] := by
  intro afterComma parts
  obtain rfl := reached.length_eq
  have nonneg : ∀ place, tokens.length ≤ place → 0 ≤ depthAt tokens place := by
    intro place behind
    rw [depthAt_of_length_le behind, reached.depth]
    exact Int.natCast_nonneg depth
  have ended : ¬ AndAt tokens tokens.length :=
    fun more => absurd (SeparatorAt.lt_length (.inr more)) (Nat.lt_irrefl _)
  rw [splitFrom, and_iff_right nonneg, resumes_iff_of_not_andAt ended, reached.listFrom_length_iff]
  simp [eq_comm]

variable (reached : Reached tokens depth start index (token :: rest))
include reached

/-- A token that does not separate is taken into the item. -/
theorem Reached.follows_further {next : Nat} (stays : ¬ SeparatorAt tokens index)
    (later : Follows tokens next start (index + 1) rest)
    (taken : ∀ afterComma, splitFrom depth afterComma start index (token :: rest)
      = splitFrom next false start (index + 1) rest) : Follows tokens depth start index (token :: rest) := by
  intro afterComma parts
  rw [taken, later, ← reached.nonneg_iff, resumes_false, resumes_iff_of_not_andAt (stays ∘ .inr)]

/-- At a separator an item ends that is not empty, and the others follow behind what joins them. -/
theorem Reached.map_splitFrom (separates : SeparatorAt tokens index) {flag : Bool}
    (joined : ∀ others, ListBehind tokens index others
      ↔ Resumes tokens flag (index + 1) (index + 1) others)
    (later : Follows tokens 0 (index + 1) (index + 1) rest) (nonempty : start < index)
    (parts : List (Nat × Nat)) :
    (splitFrom 0 flag (index + 1) (index + 1) rest).map ((start, index) :: ·) = some parts
      ↔ (∀ place, index ≤ place → 0 ≤ depthAt tokens place) ∧ ListFrom tokens start parts := by
  unfold Follows at later
  simp only [Option.map_eq_some_iff, later, reached.nonneg_iff, reached.listFrom_iff separates, joined,
    nonempty, true_and, and_assoc, exists_and_left]

end Steps

section Separators

variable {tokens rest : List Token} {token : Token} {start index : Nat}
  (reached : Reached tokens 0 start index (token :: rest))
  (later : Follows tokens 0 (index + 1) (index + 1) rest)
include reached later

theorem Reached.follows_comma (mark : listMark token = .comma) :
    Follows tokens 0 start index (token :: rest) := by
  intro afterComma parts
  have comma : CommaAt tokens index := (commaAt_iff reached.present).2 ⟨reached.depth, mark⟩
  have apart : ¬ AndAt tokens index := by simp [andAt_iff reached.present, mark]
  rw [resumes_iff_of_not_andAt apart]
  by_cases nonempty : start < index
  · have ends := reached.map_splitFrom (.inl comma) (fun _ => listBehind_of_comma comma apart) later
      nonempty parts
    simpa [splitFrom, mark, nonempty] using ends
  · simp [splitFrom, mark, nonempty, reached.listFrom_iff (.inl comma)]

theorem Reached.follows_and (mark : listMark token = .conjunction) :
    Follows tokens 0 start index (token :: rest) := by
  intro afterComma parts
  have conjunction : AndAt tokens index := (andAt_iff reached.present).2 ⟨reached.depth, mark⟩
  have apart : ¬ CommaAt tokens index := by simp [commaAt_iff reached.present, mark]
  by_cases nonempty : start < index
  · have ends := reached.map_splitFrom (.inr conjunction)
      (fun _ => listBehind_of_and conjunction apart) later nonempty parts
    simpa [splitFrom, mark, nonempty, Resumes, Nat.ne_of_lt nonempty] using ends
  · -- no item stands in front of the word, which is right just behind a comma
    obtain rfl : start = index := Nat.le_antisymm reached.begun (Nat.not_lt.1 nonempty)
    have rejoins := later false parts
    rw [← reached.nonneg_iff, resumes_false] at rejoins
    have none_ends : ¬ ListFrom tokens start parts := by simp [reached.listFrom_iff (.inr conjunction)]
    cases afterComma with
    | false => simp [splitFrom, mark, Resumes, none_ends]
    | true => simpa [splitFrom, mark, Resumes, none_ends, conjunction] using rejoins

end Separators

theorem Reached.follows {tokens rest : List Token} {depth start index : Nat}
    (reached : Reached tokens depth start index rest) : Follows tokens depth start index rest := by
  induction rest generalizing depth start index with
  | nil => exact reached.follows_nil
  | cons token rest ih =>
      have deeper := depthAt_succ reached.present
      have separates_iff := separatorAt_iff reached.present
      rw [opens_eq, reached.depth] at deeper
      rw [reached.depth] at separates_iff
      -- the token goes into the item unless it is a separator outside of parentheses
      have further (next : Nat) (stays : ¬ SeparatorAt tokens index)
          (deep : depthAt tokens (index + 1) = next)
          (taken : ∀ afterComma, splitFrom depth afterComma start index (token :: rest)
            = splitFrom next false start (index + 1) rest) :=
        reached.follows_further stays (ih (reached.further stays deep)) taken
      cases mark : listMark token with
      | opening =>
          rw [mark] at deeper separates_iff
          exact further (depth + 1) (by simp [separates_iff]) deeper (by simp [splitFrom, mark])
      | closing =>
          rw [mark] at deeper separates_iff
          cases depth with
          | zero =>
              intro afterComma parts
              have negative : ¬ ∀ place, index ≤ place → 0 ≤ depthAt tokens place := by
                intro nonneg
                have here := nonneg (index + 1) (Nat.le_succ index)
                rw [deeper] at here
                exact absurd here (by decide)
              simp [splitFrom, mark, negative]
          | succ depth =>
              exact further depth (by simp [separates_iff]) (by simpa using deeper)
                (by simp [splitFrom, mark])
      | content =>
          rw [mark] at deeper separates_iff
          exact further depth (by simp [separates_iff]) (by simpa using deeper) (by simp [splitFrom, mark])
      | comma =>
          rw [mark] at deeper separates_iff
          cases depth with
          | zero =>
              have separates : SeparatorAt tokens index := by simp [separates_iff]
              exact reached.follows_comma (ih (reached.behind separates)) mark
          | succ depth =>
              have stays : ¬ SeparatorAt tokens index := by
                simp [separates_iff]
                omega
              exact further (depth + 1) stays (by simpa using deeper) (by simp [splitFrom, mark])
      | conjunction =>
          rw [mark] at deeper separates_iff
          cases depth with
          | zero =>
              have separates : SeparatorAt tokens index := by simp [separates_iff]
              exact reached.follows_and (ih (reached.behind separates)) mark
          | succ depth =>
              have stays : ¬ SeparatorAt tokens index := by
                simp [separates_iff]
                omega
              exact further (depth + 1) stays (by simpa using deeper) (by simp [splitFrom, mark])

theorem reached_start (tokens : List Token) : Reached tokens 0 0 0 tokens where
  rest := rfl
  within := Nat.zero_le _
  depth := rfl
  begun := Nat.le_refl 0
  whole place _ before := absurd before (Nat.not_lt_zero place)

/-! ### The items of a list -/

/-- The parts stand apart, one behind the other, and every token is in one of them unless it separates. -/
structure Covers (tokens : List Token) (parts : List (Nat × Nat)) : Prop where
  apart : parts.Pairwise fun part later => part.2 < later.1
  covers : ∀ place, place < tokens.length →
    ((∃ part ∈ parts, part.1 ≤ place ∧ place < part.2) ↔ ¬ SeparatorAt tokens place)

section Items

variable {tokens : List Token} {start stop next : Nat} {parts : List (Nat × Nat)}

theorem Joins.lt (joins : Joins tokens stop next) : stop < next := by
  cases joins with
  | comma => omega
  | conjunction => omega
  | both => omega

/-- Between two items nothing stands that does not separate. -/
theorem Joins.separatorAt (joins : Joins tokens stop next) {place : Nat} (behind : stop ≤ place)
    (before : place < next) : SeparatorAt tokens place := by
  cases joins with
  | comma here =>
      obtain rfl : stop = place := by omega
      exact .inl here
  | conjunction here =>
      obtain rfl : stop = place := by omega
      exact .inr here
  | both here there =>
      rcases Nat.eq_or_lt_of_le behind with rfl | later
      · exact .inl here
      · obtain rfl : stop + 1 = place := by omega
        exact .inr there

theorem ListFrom.le_of_mem (list : ListFrom tokens start parts) :
    ∀ part ∈ parts, start ≤ part.1 := by
  induction list with
  | last => exact List.forall_mem_singleton.2 (Nat.le_refl _)
  | more item joins rest ih =>
      refine List.forall_mem_cons.2 ⟨Nat.le_refl _, fun part listed => ?_⟩
      have forward := ih part listed
      have behind := joins.lt
      have nonempty := item.nonempty
      omega

theorem ListFrom.apart (list : ListFrom tokens start parts) :
    parts.Pairwise fun part later => part.2 < later.1 := by
  induction list with
  | last => exact List.pairwise_singleton ..
  | more item joins rest ih =>
      refine List.pairwise_cons.2 ⟨fun later listed => ?_, ih⟩
      exact Nat.lt_of_lt_of_le joins.lt (rest.le_of_mem later listed)

theorem ListFrom.covers (list : ListFrom tokens start parts) {place : Nat} (behind : start ≤ place)
    (within : place < tokens.length) :
    (∃ part ∈ parts, part.1 ≤ place ∧ place < part.2) ↔ ¬ SeparatorAt tokens place := by
  induction list with
  | last item =>
      refine iff_of_true ?_ (item.whole place behind within)
      exact ⟨_, List.mem_singleton_self _, behind, within⟩
  | @more start stop next parts item joins rest ih =>
      rcases Nat.lt_or_ge place stop with inside | past
      · refine iff_of_true ?_ (item.whole place behind inside)
        exact ⟨_, List.mem_cons_self, behind, inside⟩
      · rcases Nat.lt_or_ge place next with between | later
        · refine iff_of_false ?_ (not_not_intro (joins.separatorAt past between))
          rintro ⟨part, listed, starts, stops⟩
          rcases List.mem_cons.1 listed with rfl | listed
          · exact absurd stops (Nat.not_lt.2 past)
          · have forward := rest.le_of_mem part listed
            omega
        · simp [ih later, Nat.not_lt.2 past]

end Items

theorem not_separatorAt_of_quoted {tokens : List Token} {place : Nat} {token : Token}
    (present : tokens[place]? = some token) (isQuoted : token.kind = .quoted) :
    ¬ SeparatorAt tokens place := by
  have content : listMark token = .content := by rw [listMark, isQuoted]
  simp [separatorAt_iff present, content]

/-- A window is taken apart just if it is a list of two items or more, with separators between them and none
in them, and no parenthesis is closed that was not opened; then it is taken apart into these items. They stand
apart from each other and hold every token that does not separate, and each quoted token is in one of them. -/
theorem splitList_accepts_lists (tokens : List Token) (parts : List (Nat × Nat)) :
    (splitList tokens = some parts
        ↔ (∀ place, 0 ≤ depthAt tokens place) ∧ ListFrom tokens 0 parts ∧ 2 ≤ parts.length)
      ∧ (splitList tokens = some parts →
        Covers tokens parts
          ∧ ∀ place token, tokens[place]? = some token → token.kind = .quoted →
              ∃ part ∈ parts, part.1 ≤ place ∧ place < part.2) := by
  have accepts : splitList tokens = some parts
      ↔ (∀ place, 0 ≤ depthAt tokens place) ∧ ListFrom tokens 0 parts ∧ 2 ≤ parts.length := by
    rw [splitList, Option.filter_eq_some_iff, (reached_start tokens).follows, resumes_false]
    simp [and_assoc]
  refine ⟨accepts, fun splits => ?_⟩
  obtain ⟨-, list, -⟩ := accepts.1 splits
  have covers : Covers tokens parts :=
    ⟨list.apart, fun place within => list.covers (Nat.zero_le place) within⟩
  refine ⟨covers, fun place token present isQuoted => ?_⟩
  have within := (List.getElem?_eq_some_iff.1 present).1
  exact (covers.covers place within).2 (not_separatorAt_of_quoted present isQuoted)

/-- Neither what is quoted nor what stands in parentheses is taken apart, and a comma may be followed by the
word. -/
theorem splitList_accepts_a_list :
    splitList (Token.tokenize "a, \"b and c\", And f(d, e)") = some [(0, 1), (2, 3), (5, 11)]
      ∧ Covers (Token.tokenize "a, \"b and c\", And f(d, e)") [(0, 1), (2, 3), (5, 11)] := by
  have splits : splitList (Token.tokenize "a, \"b and c\", And f(d, e)")
      = some [(0, 1), (2, 3), (5, 11)] := by decide +kernel
  exact ⟨splits, ((splitList_accepts_lists _ _).2 splits).1⟩

end ScriptBridge.Parsing
