import Mathlib.Data.List.Shortlex
import ScriptBridge.Wrapper.Lineage
/-!
Lineages are breadth first. A route tells how an ancestor is come by: the place of a base among the bases,
and then, step by step, the place of a parent among the parents. Shorter routes come first, and of two
equally long ones the one that keeps to what was declared earlier. A lineage lists the wrapper, and then
everything that has a route, in the order of the first routes.
-/

namespace ScriptBridge.InterfaceGraph

/-! ### Routes -/

/-- The ways to the ancestors of a wrapper. No route goes on from the wrapper: what was declared about it
as an interface does not count. -/
inductive Route (graph : InterfaceGraph) (wrapper : TypeKey) (bases : List TypeKey) :
    List Nat → TypeKey → Prop where
  | base {place : Nat} {key : TypeKey} (listed : bases[place]? = some key) :
      Route graph wrapper bases [place] key
  | parent {route : List Nat} {place : Nat} {key parent : TypeKey}
      (way : Route graph wrapper bases route key) (apart : key ≠ wrapper)
      (declared : (graph.parents key)[place]? = some parent) :
      Route graph wrapper bases (route ++ [place]) parent

/-- The first of two routes is shorter, or it is as long and keeps to what was declared earlier. -/
def Sooner (route other : List Nat) : Prop :=
  List.Shortlex (· < ·) route other

/-- The number of steps in which an ancestor can be come by, and not in fewer. -/
structure IsDistance (graph : InterfaceGraph) (wrapper : TypeKey) (bases : List TypeKey) (steps : Nat)
    (key : TypeKey) : Prop where
  reached : ∃ route, Route graph wrapper bases route key ∧ route.length = steps
  least : ∀ route, Route graph wrapper bases route key → steps ≤ route.length

/-- Some route to the first key comes before every route to the second. -/
def FoundBefore (graph : InterfaceGraph) (wrapper : TypeKey) (bases : List TypeKey)
    (key later : TypeKey) : Prop :=
  ∃ route, Route graph wrapper bases route key
    ∧ ∀ other, Route graph wrapper bases other later → Sooner route other

namespace Sooner

variable {route other third : List Nat}

theorem trans (first : Sooner route other) (second : Sooner other third) : Sooner route third := by
  rcases List.shortlex_def.1 first with shorter | ⟨long, before⟩
  · rcases List.shortlex_def.1 second with shorter' | ⟨long', -⟩
    · exact .of_length_lt (Nat.lt_trans shorter shorter')
    · exact .of_length_lt (long' ▸ shorter)
  · rcases List.shortlex_def.1 second with shorter' | ⟨long', before'⟩
    · exact .of_length_lt (long ▸ shorter')
    · exact .of_lex (long.trans long') (List.lex_trans Nat.lt_trans before before')

/-- Steps taken behind two routes leave the sooner one in front. -/
theorem concat (first : Sooner route other) (place place' : Nat) :
    Sooner (route ++ [place]) (other ++ [place']) := by
  have lengths (path : List Nat) (last : Nat) : (path ++ [last]).length = path.length + 1 :=
    List.length_append
  rcases List.shortlex_def.1 first with shorter | ⟨long, before⟩
  · apply List.Shortlex.of_length_lt
    rw [lengths, lengths]
    exact Nat.succ_lt_succ shorter
  · refine .of_lex (by rw [lengths, lengths, long]) ?_
    clear first
    induction before with
    | nil => cases long
    | rel smaller => exact .rel smaller
    | cons _ ih => exact .cons (ih (Nat.succ.inj long))

theorem step (route : List Nat) (place : Nat) : Sooner route (route ++ [place]) := by
  apply List.Shortlex.of_length_lt
  rw [List.length_append]
  exact Nat.lt_succ_self _

theorem same_front {place place' : Nat} (route : List Nat) (smaller : place < place') :
    Sooner (route ++ [place]) (route ++ [place']) :=
  List.Shortlex.append_left ((List.shortlex_singleton_iff place place').2 smaller) route

theorem length_le (first : Sooner route other) : route.length ≤ other.length := by
  rcases List.shortlex_def.1 first with shorter | ⟨long, -⟩
  · exact Nat.le_of_lt shorter
  · exact Nat.le_of_eq long

end Sooner

/-- The routes are one, or the first is sooner. -/
def NoLater (route other : List Nat) : Prop :=
  route = other ∨ Sooner route other

namespace NoLater

variable {route other third : List Nat}

theorem trans (first : NoLater route other) (second : NoLater other third) : NoLater route third := by
  rcases first with rfl | first
  · exact second
  · rcases second with rfl | second
    · exact .inr first
    · exact .inr (first.trans second)

theorem concat (first : NoLater route other) (place : Nat) :
    NoLater (route ++ [place]) (other ++ [place]) := by
  rcases first with rfl | first
  · exact .inl rfl
  · exact .inr (first.concat place place)

theorem sooner (first : NoLater route other) (differs : route ≠ other) : Sooner route other :=
  first.resolve_left differs

end NoLater

section Routes

variable {graph : InterfaceGraph} {wrapper : TypeKey} {bases : List TypeKey} {route : List Nat}
  {key other : TypeKey}

theorem Route.ne_nil (way : Route graph wrapper bases route key) : route ≠ [] := by
  cases way with
  | base listed => exact List.cons_ne_nil _ _
  | parent way apart declared => exact List.append_ne_nil_of_right_ne_nil _ (List.cons_ne_nil _ _)

/-- A route leads to one key. -/
theorem Route.unique (way : Route graph wrapper bases route key)
    (way' : Route graph wrapper bases route other) : key = other := by
  induction way generalizing other with
  | @base place key listed =>
      generalize same : [place] = path at way'
      cases way' with
      | base listed' =>
          cases same
          exact Option.some.inj (listed.symm.trans listed')
      | parent way' apart declared =>
          rw [← List.nil_append [place]] at same
          obtain ⟨empty, -⟩ := List.append_inj' same rfl
          exact absurd empty.symm way'.ne_nil
  | @parent route place key parent way apart declared ih =>
      generalize same : route ++ [place] = path at way'
      cases way' with
      | @base last _ listed' =>
          rw [← List.nil_append [last]] at same
          obtain ⟨empty, -⟩ := List.append_inj' same rfl
          exact absurd empty way.ne_nil
      | parent way' apart' declared' =>
          obtain ⟨rfl, last⟩ := List.append_inj' same rfl
          cases last
          rw [ih way', declared'] at declared
          exact (Option.some.inj declared).symm

end Routes

/-! ### The walk -/

theorem find_filter_ne {key other : TypeKey} (apart : key ≠ other)
    (entries : List (TypeKey × List TypeKey)) :
    Table.find key (entries.filter (·.1 ≠ other)) = Table.find key entries := by
  induction entries with
  | nil => rfl
  | cons entry rest ih =>
      obtain ⟨first, parents⟩ := entry
      by_cases erased : first = other
      · have kept : first ≠ key := fun same => apart (same.symm.trans erased)
        rw [List.filter_cons_of_neg (by simpa using erased), ih, Table.find, if_neg kept]
      · rw [List.filter_cons_of_pos (by simpa using erased), Table.find, Table.find, ih]

/-- A key that leaves the graph takes nobody else's parents along. -/
theorem parents_erase {key other : TypeKey} (apart : key ≠ other) (graph : InterfaceGraph) :
    parents (graph.erase other) key = graph.parents key := by
  simp only [parents, Table.get?, Table.erase, find_filter_ne apart]

/-- How the queue is worked off in a graph that stays as it is. A key that has been seen is passed over;
another one is listed, and its parents join the queue. -/
inductive Walks (graph : InterfaceGraph) : List TypeKey → List TypeKey → List TypeKey → Prop where
  | done {seen : List TypeKey} : Walks graph seen [] []
  | skip {seen queue rest : List TypeKey} {key : TypeKey} (known : key ∈ seen)
      (others : Walks graph seen queue rest) : Walks graph seen (key :: queue) rest
  | list {seen queue rest : List TypeKey} {key : TypeKey} (fresh : key ∉ seen)
      (others : Walks graph (key :: seen) (queue ++ graph.parents key) rest) :
      Walks graph seen (key :: queue) (key :: rest)

/-- Leaving out what has been seen changes nothing: the walk comes to an end in the whole graph too, with
the same list. -/
theorem walks_walk {graph left : InterfaceGraph} {seen : List TypeKey}
    (alike : ∀ key, key ∉ seen → left.parents key = graph.parents key) (queue : List TypeKey) :
    Walks graph seen queue (left.walk seen queue) := by
  induction left, seen, queue using walk.induct with
  | case1 left seen =>
      rw [walk]
      exact .done
  | case2 left seen key queue known ih =>
      rw [walk, if_pos known]
      exact .skip (List.contains_iff_mem.1 known) (ih alike)
  | case3 left seen key queue unknown ih =>
      have fresh : key ∉ seen := fun known => unknown (List.contains_iff_mem.2 known)
      rw [walk, if_neg unknown]
      apply Walks.list fresh
      rw [← alike key fresh]
      apply ih
      intro other apart
      obtain ⟨differs, unseen⟩ := not_or.1 (mt List.mem_cons.2 apart)
      rw [parents_erase differs, alike other unseen]

/-! ### The queue -/

/-- A key in the queue, with the route by which it came there. -/
structure Offer where
  route : List Nat
  key : TypeKey

/-- Keys offered in order by the last step of a route. -/
def offersOf (route : List Nat) (keys : List TypeKey) : List Offer :=
  keys.zipIdx.map fun (key, place) => ⟨route ++ [place], key⟩

theorem map_key_offersOf (route : List Nat) (keys : List TypeKey) :
    (offersOf route keys).map Offer.key = keys := by
  rw [offersOf, List.map_map]
  exact List.zipIdx_map_fst 0 keys

theorem mem_offersOf {route : List Nat} {keys : List TypeKey} {offer : Offer} :
    offer ∈ offersOf route keys
      ↔ ∃ place, keys[place]? = some offer.key ∧ offer.route = route ++ [place] := by
  obtain ⟨path, key⟩ := offer
  simp only [offersOf, List.mem_map, Prod.exists, List.mk_mem_zipIdx_iff_getElem?, Offer.mk.injEq]
  constructor
  · rintro ⟨other, place, listed, rfl, rfl⟩
    exact ⟨place, listed, rfl⟩
  · rintro ⟨place, listed, rfl⟩
    exact ⟨key, place, listed, rfl, rfl⟩

theorem sooner_of_mem_offersOf {route : List Nat} {keys : List TypeKey} {offer : Offer}
    (offered : offer ∈ offersOf route keys) : Sooner route offer.route := by
  obtain ⟨place, -, same⟩ := mem_offersOf.1 offered
  rw [same]
  exact Sooner.step route place

theorem dropLast_of_mem_offersOf {route : List Nat} {keys : List TypeKey} {offer : Offer}
    (offered : offer ∈ offersOf route keys) : offer.route.dropLast = route := by
  obtain ⟨place, -, same⟩ := mem_offersOf.1 offered
  rw [same]
  exact List.dropLast_concat

theorem pairwise_offersOf (route : List Nat) (keys : List TypeKey) :
    (offersOf route keys).Pairwise fun offer later => Sooner offer.route later.route := by
  rw [offersOf, List.pairwise_map]
  have ascending : keys.zipIdx.Pairwise fun offer later => offer.2 < later.2 := by
    rw [← List.pairwise_map (f := Prod.snd) (R := (· < ·)), List.zipIdx_map_snd]
    exact List.pairwise_lt_range'
  exact ascending.imp fun smaller => Sooner.same_front route smaller

/-- Routes that go on from an offer through keys that have not been seen. -/
inductive Onward (graph : InterfaceGraph) (seen : List TypeKey) (offer : Offer) :
    List Nat → TypeKey → Prop where
  | here (fresh : offer.key ∉ seen) : Onward graph seen offer offer.route offer.key
  | parent {route : List Nat} {place : Nat} {key parent : TypeKey}
      (way : Onward graph seen offer route key)
      (declared : (graph.parents key)[place]? = some parent) (fresh : parent ∉ seen) :
      Onward graph seen offer (route ++ [place]) parent

namespace Onward

variable {graph : InterfaceGraph} {seen : List TypeKey} {offer first : Offer} {route : List Nat}
  {key : TypeKey}

theorem noLater (way : Onward graph seen offer route key) : NoLater offer.route route := by
  induction way with
  | here fresh => exact .inl rfl
  | parent way declared fresh ih => exact ih.trans (.inr (Sooner.step _ _))

theorem fresh (way : Onward graph seen offer route key) : offer.key ∉ seen := by
  induction way with
  | here fresh => exact fresh
  | parent way declared fresh ih => exact ih

/-- Once a key has been seen that was offered no later, a route through it is no longer needed: from its
parents on there is one that is no later. -/
theorem avoid (way : Onward graph seen offer route key) (earlier : NoLater first.route offer.route)
    (apart : key ≠ first.key) :
    Onward graph (first.key :: seen) offer route key
      ∨ ∃ next ∈ offersOf first.route (graph.parents first.key), ∃ other,
          Onward graph (first.key :: seen) next other key ∧ NoLater other route := by
  induction way with
  | here fresh => exact .inl (.here (List.not_mem_cons_of_ne_of_not_mem apart fresh))
  | @parent route place key parent way declared fresh ih =>
      have unseen : parent ∉ first.key :: seen := List.not_mem_cons_of_ne_of_not_mem apart fresh
      by_cases through : key = first.key
      · subst through
        refine .inr ⟨⟨first.route ++ [place], parent⟩, mem_offersOf.2 ⟨place, declared, rfl⟩, _,
          .here unseen, ?_⟩
        exact (earlier.trans way.noLater).concat place
      · rcases ih through with kept | ⟨next, offered, other, kept, before⟩
        · exact .inl (.parent kept declared unseen)
        · exact .inr ⟨next, offered, _, .parent kept declared unseen, before.concat place⟩

end Onward

/-- What holds of the queue between two steps. Its offers stand in the order of their routes, and what the
first one brings comes behind all others. Whatever can be reached and has not been seen will be come by
from an offer, and no later than by any route of its own. -/
structure Frontier (graph : InterfaceGraph) (wrapper : TypeKey) (bases seen : List TypeKey)
    (queue : List Offer) : Prop where
  seesWrapper : wrapper ∈ seen
  routes : ∀ offer ∈ queue, Route graph wrapper bases offer.route offer.key
  ordered : queue.Pairwise fun offer later => Sooner offer.route later.route
  close : ∀ offer ∈ queue, ∀ other ∈ queue, Sooner offer.route.dropLast other.route
  reaches : ∀ route key, Route graph wrapper bases route key → key ∉ seen →
    ∃ offer ∈ queue, ∃ other, Onward graph seen offer other key ∧ NoLater other route

namespace Frontier

variable {graph : InterfaceGraph} {wrapper : TypeKey} {bases seen : List TypeKey} {first : Offer}
  {queue : List Offer}

theorem start (graph : InterfaceGraph) (wrapper : TypeKey) (bases : List TypeKey) :
    Frontier graph wrapper bases [wrapper] (offersOf [] bases) where
  seesWrapper := List.mem_singleton_self _
  routes offer offered := by
    obtain ⟨place, listed, same⟩ := mem_offersOf.1 offered
    rw [same]
    exact .base listed
  ordered := pairwise_offersOf [] bases
  close offer offered other offered' := by
    rw [dropLast_of_mem_offersOf offered]
    exact sooner_of_mem_offersOf offered'
  reaches route key way apart := by
    induction way with
    | @base place key listed =>
        exact ⟨⟨[place], key⟩, mem_offersOf.2 ⟨place, listed, rfl⟩, [place], .here apart, .inl rfl⟩
    | @parent route place key parent way others declared ih =>
        obtain ⟨offer, offered, other, onward, before⟩ := ih (mt List.mem_singleton.1 others)
        exact ⟨offer, offered, _, .parent onward declared apart, before.concat place⟩

theorem before_rest (frontier : Frontier graph wrapper bases seen (first :: queue)) {offer : Offer}
    (offered : offer ∈ queue) : Sooner first.route offer.route :=
  List.rel_of_pairwise_cons frontier.ordered offered

theorem noLater (frontier : Frontier graph wrapper bases seen (first :: queue)) {offer : Offer}
    (offered : offer ∈ first :: queue) : NoLater first.route offer.route := by
  rcases List.mem_cons.1 offered with rfl | behind
  · exact .inl rfl
  · exact .inr (frontier.before_rest behind)

theorem skip (frontier : Frontier graph wrapper bases seen (first :: queue))
    (known : first.key ∈ seen) : Frontier graph wrapper bases seen queue where
  seesWrapper := frontier.seesWrapper
  routes offer offered := frontier.routes offer (List.mem_cons_of_mem _ offered)
  ordered := frontier.ordered.of_cons
  close offer offered other offered' :=
    frontier.close offer (List.mem_cons_of_mem _ offered) other (List.mem_cons_of_mem _ offered')
  reaches route key way apart := by
    obtain ⟨offer, offered, other, onward, before⟩ := frontier.reaches route key way apart
    rcases List.mem_cons.1 offered with rfl | behind
    · -- nothing goes on from a key that has been seen
      exact absurd known onward.fresh
    · exact ⟨offer, behind, other, onward, before⟩

/-- The first offer, if its key is new, comes before every route to another key. -/
theorem sooner (frontier : Frontier graph wrapper bases seen (first :: queue)) {route : List Nat}
    {key : TypeKey} (way : Route graph wrapper bases route key) (apart : key ∉ first.key :: seen) :
    Sooner first.route route := by
  obtain ⟨differs, unseen⟩ := not_or.1 (mt List.mem_cons.2 apart)
  obtain ⟨offer, offered, other, onward, before⟩ := frontier.reaches route key way unseen
  have earlier := ((frontier.noLater offered).trans onward.noLater).trans before
  apply earlier.sooner
  intro same
  have own := frontier.routes first List.mem_cons_self
  rw [same] at own
  exact differs (way.unique own)

/-- What is queued already was found from something before the first offer, so it comes before what that
one brings. -/
theorem list_ordered (frontier : Frontier graph wrapper bases seen (first :: queue))
    (parents : List TypeKey) :
    (queue ++ offersOf first.route parents).Pairwise fun offer later => Sooner offer.route later.route := by
  refine List.pairwise_append.2 ⟨frontier.ordered.of_cons, pairwise_offersOf _ _, ?_⟩
  intro offer behind next offered
  have found := frontier.close offer (List.mem_cons_of_mem _ behind) first List.mem_cons_self
  have whole := (frontier.routes offer (List.mem_cons_of_mem _ behind)).ne_nil
  obtain ⟨place, -, same⟩ := mem_offersOf.1 offered
  rw [same, ← List.dropLast_append_getLast whole]
  exact found.concat _ place

theorem list_close (frontier : Frontier graph wrapper bases seen (first :: queue))
    (parents : List TypeKey) : ∀ offer ∈ queue ++ offersOf first.route parents,
      ∀ other ∈ queue ++ offersOf first.route parents, Sooner offer.route.dropLast other.route := by
  intro offer offered other offered'
  rcases List.mem_append.1 offered with behind | next
  · have found (third : Offer) (member : third ∈ first :: queue) :=
      frontier.close offer (List.mem_cons_of_mem _ behind) third member
    rcases List.mem_append.1 offered' with behind' | next'
    · exact found other (List.mem_cons_of_mem _ behind')
    · exact (found first List.mem_cons_self).trans (sooner_of_mem_offersOf next')
  · rw [dropLast_of_mem_offersOf next]
    rcases List.mem_append.1 offered' with behind' | next'
    · exact frontier.before_rest behind'
    · exact sooner_of_mem_offersOf next'

/-- The first offer leaves the queue and its parents join it. -/
theorem list (frontier : Frontier graph wrapper bases seen (first :: queue))
    (fresh : first.key ∉ seen) :
    Frontier graph wrapper bases (first.key :: seen)
      (queue ++ offersOf first.route (graph.parents first.key)) where
  seesWrapper := List.mem_cons_of_mem _ frontier.seesWrapper
  routes offer offered := by
    rcases List.mem_append.1 offered with behind | next
    · exact frontier.routes offer (List.mem_cons_of_mem _ behind)
    · have apart : first.key ≠ wrapper := fun same => fresh (same ▸ frontier.seesWrapper)
      obtain ⟨place, declared, same⟩ := mem_offersOf.1 next
      rw [same]
      exact .parent (frontier.routes first List.mem_cons_self) apart declared
  ordered := frontier.list_ordered _
  close := frontier.list_close _
  reaches route key way unseen := by
    obtain ⟨differs, unseen'⟩ := not_or.1 (mt List.mem_cons.2 unseen)
    obtain ⟨offer, offered, other, onward, before⟩ := frontier.reaches route key way unseen'
    rcases onward.avoid (frontier.noLater offered) differs with
      kept | ⟨next, nextOffered, shorter, kept, before'⟩
    · refine ⟨offer, ?_, other, kept, before⟩
      rcases List.mem_cons.1 offered with rfl | behind
      · exact absurd List.mem_cons_self kept.fresh
      · exact List.mem_append_left _ behind
    · exact ⟨next, List.mem_append_right _ nextOffered, shorter, kept, before'.trans before⟩

end Frontier

/-- What a walk lists of what had not been seen: everything that has a route, once, in the order in which
it is found. -/
structure ListsInOrder (graph : InterfaceGraph) (wrapper : TypeKey) (bases seen rest : List TypeKey) :
    Prop where
  mem_iff : ∀ key, key ∈ rest ↔ key ∉ seen ∧ ∃ route, Route graph wrapper bases route key
  nodup : rest.Nodup
  ordered : rest.Pairwise (FoundBefore graph wrapper bases)

/-- A walk lists in order whatever its queue leads to. -/
theorem Walks.listsInOrder {graph : InterfaceGraph} {wrapper : TypeKey} {bases seen rest : List TypeKey}
    {offers : List Offer} (walks : Walks graph seen (offers.map Offer.key) rest)
    (frontier : Frontier graph wrapper bases seen offers) :
    ListsInOrder graph wrapper bases seen rest := by
  generalize keys : offers.map Offer.key = queue at walks
  induction walks generalizing offers with
  | done =>
      obtain rfl := List.map_eq_nil_iff.1 keys
      refine ⟨fun key => ⟨fun listed => (List.not_mem_nil listed).elim, ?_⟩, .nil, .nil⟩
      rintro ⟨unseen, route, way⟩
      obtain ⟨offer, offered, -⟩ := frontier.reaches route key way unseen
      exact (List.not_mem_nil offered).elim
  | skip known others ih =>
      obtain ⟨first, behind, rfl, rfl, rfl⟩ := List.map_eq_cons_iff.1 keys
      exact ih (frontier.skip known) rfl
  | list fresh others ih =>
      obtain ⟨first, behind, rfl, rfl, rfl⟩ := List.map_eq_cons_iff.1 keys
      have own := frontier.routes first List.mem_cons_self
      have later := ih (frontier.list fresh) (by rw [List.map_append, map_key_offersOf])
      refine ⟨fun key => ?_, ?_, ?_⟩
      · rw [List.mem_cons, later.mem_iff, List.mem_cons, not_or]
        by_cases same : key = first.key
        · subst same
          exact iff_of_true (.inl rfl) ⟨fresh, _, own⟩
        · simp only [same, false_or, not_false_eq_true, true_and]
      · refine List.nodup_cons.2 ⟨fun again => ?_, later.nodup⟩
        exact ((later.mem_iff _).1 again).1 List.mem_cons_self
      · refine List.pairwise_cons.2 ⟨fun key listed => ?_, later.ordered⟩
        exact ⟨_, own, fun route way => frontier.sooner way ((later.mem_iff key).1 listed).1⟩

/-- What is found before is no farther away. -/
theorem FoundBefore.distance_le {graph : InterfaceGraph} {wrapper : TypeKey} {bases : List TypeKey}
    {key later : TypeKey} (found : FoundBefore graph wrapper bases key later) {near far : Nat}
    (here : IsDistance graph wrapper bases near key) (there : IsDistance graph wrapper bases far later) :
    near ≤ far := by
  obtain ⟨route, way, before⟩ := found
  obtain ⟨other, way', rfl⟩ := there.reached
  exact Nat.le_trans (here.least route way) (before other way').length_le

/-- The lineage of a wrapper begins with the wrapper and lists nothing twice. Behind the wrapper stands
just what has a route, the wrapper itself left out: the nearer first, and at one distance in the order in
which it is found. The list is what working off the queue comes to, in a graph that stays as it is,
however interfaces go around in it. -/
theorem lineage_breadth_first (graph : InterfaceGraph) (wrapper : TypeKey) (bases : List TypeKey) :
    ∃ ancestors, graph.lineage wrapper bases = wrapper :: ancestors
      ∧ Walks graph [wrapper] bases ancestors
      ∧ (wrapper :: ancestors).Nodup
      ∧ (∀ key, key ∈ ancestors ↔ key ≠ wrapper ∧ ∃ route, Route graph wrapper bases route key)
      ∧ ancestors.Pairwise (fun key later => ∀ near far, IsDistance graph wrapper bases near key →
          IsDistance graph wrapper bases far later → near ≤ far)
      ∧ ancestors.Pairwise (FoundBefore graph wrapper bases) := by
  have walks : Walks graph [wrapper] bases (graph.walk [wrapper] bases) :=
    walks_walk (fun _ _ => rfl) bases
  have lists : ListsInOrder graph wrapper bases [wrapper] (graph.walk [wrapper] bases) := by
    refine Walks.listsInOrder ?_ (.start graph wrapper bases)
    rwa [map_key_offersOf]
  refine ⟨_, rfl, walks, ?_, ?_, ?_, lists.ordered⟩
  · refine List.nodup_cons.2 ⟨fun again => ?_, lists.nodup⟩
    exact ((lists.mem_iff wrapper).1 again).1 (List.mem_singleton_self _)
  · intro key
    rw [lists.mem_iff, List.mem_singleton]
  · exact lists.ordered.imp fun found near far => found.distance_le

/-- By two ways to one interface, and from there around in a circle. -/
example :
    let graph : InterfaceGraph :=
      [("Fall", ["Crop", "Move"]), ("Crop", ["Root"]), ("Move", ["Drop", "Root"]), ("Root", ["Fall"])].foldl
        (fun graph (key, parents) => declare graph (.named key) (parents.map .named)) {}
    graph.lineage (.named "Drop") [.named "Fall"]
      = ["Drop", "Fall", "Crop", "Move", "Root"].map .named := by
  decide +kernel

end ScriptBridge.InterfaceGraph
