import ScriptBridge.Proofs.Bus.Log
/-!
Publications go by the subscriptions that there were when they began. Callbacks may subscribe further
callbacks and publish further events while they are called, so publications nest and the subscriptions
grow under way. Main statement: whatever the callbacks do, if the run comes to an end, each publication in
its log calls the callbacks that came before it under its key, in the order of their subscription, each
with its event, and answers with their number.
-/

namespace ScriptBridge

variable {ν σ : Type}

/-! ### What a publication is to do -/

namespace BusLog

variable {log others : BusLog ν σ} {key : TypeKey} {event : ν} {publication : Nat}

/-- What a publication is to do that begins after all that is in the log: call the callbacks that came to
be subscribed under its key, and answer with their number. -/
def due (log : BusLog ν σ) (key : TypeKey) (event : ν) : BusLog ν σ :=
  (log.subscribers key).map (.called log.length · event)
    ++ [.answered log.length (log.subscribers key).length]

theorem deeds_append : (log ++ others).deeds publication
    = log.deeds publication ++ others.deeds publication :=
  List.filter_append ..

theorem mem_deeds {happening : Happening ν σ} : happening ∈ log.deeds publication
    ↔ happening ∈ log ∧ happening.publication? = some publication := by
  rw [deeds, List.mem_filter, decide_eq_true_iff]

theorem deeds_eq_nil : log.deeds publication = []
    ↔ ∀ happening ∈ log, happening.publication? ≠ some publication := by
  simp [deeds, List.filter_eq_nil_iff]

theorem deeds_singleton (happening : Happening ν σ) : deeds [happening] publication
    = if happening.publication? = some publication then [happening] else [] := by
  rw [deeds, List.filter_cons, List.filter_nil]
  simp

theorem subscribers_append :
    (log ++ others).subscribers key = log.subscribers key ++ others.subscribers key :=
  List.filterMap_append

/-- The callbacks under a key are those that came to be subscribed under it. -/
theorem mem_subscribers {callback : ν → Reaction ν σ} :
    callback ∈ log.subscribers key ↔ .subscribed key callback ∈ log := by
  rw [subscribers, List.mem_filterMap]
  constructor
  · rintro ⟨happening, listed, found⟩
    cases happening with
    | subscribed other held =>
        obtain ⟨rfl, same⟩ := Option.ite_none_right_eq_some.1 found
        cases same
        exact listed
    | began | called | answered => cases found
  · intro listed
    exact ⟨_, listed, if_pos rfl⟩

/-- What happened before some place of the log. -/
theorem mem_take_iff {place : Nat} {happening : Happening ν σ} : happening ∈ log.take place
    ↔ ∃ earlier < place, log[earlier]? = some happening := by
  rw [List.mem_iff_getElem?]
  apply exists_congr
  intro earlier
  rw [List.getElem?_take]
  split
  · next lt => exact (and_iff_right lt).symm
  · next le => exact iff_of_false nofun fun both => le both.1

end BusLog

/-! ### Logs in which publications do what they are to do -/

/-- How a log goes on. Each publication that begins on the way does just what it is to do, and is the only
one to do it in its name, after it began. Publications that had begun before do what they are said to. -/
structure BusLog.GoesOn (outer : Nat → BusLog ν σ) (before more : BusLog ν σ) : Prop where
  earlier : ∀ place < before.length, more.deeds place = outer place
  begun : ∀ place key event, before.length ≤ place →
    (before ++ more)[place]? = some (.began key event) →
    more.deeds place = BusLog.due ((before ++ more).take place) key event
  origin : ∀ position happening place, before.length ≤ position →
    (before ++ more)[position]? = some happening → happening.publication? = some place →
    before.length ≤ place →
    place < position ∧ ∃ key event, (before ++ more)[place]? = some (.began key event)

namespace BusLog.GoesOn

variable {outer others : Nat → BusLog ν σ} {before more rest : BusLog ν σ}

theorem congr (goesOn : GoesOn outer before more)
    (same : ∀ place < before.length, outer place = others place) : GoesOn others before more where
  earlier place lt := (goesOn.earlier place lt).trans (same place lt)
  begun := goesOn.begun
  origin := goesOn.origin

/-- Nothing is done in the name of a publication that is still to begin. -/
theorem deeds_of_le (goesOn : GoesOn outer before more) {place : Nat}
    (le : (before ++ more).length ≤ place) : more.deeds place = [] := by
  rw [BusLog.deeds_eq_nil]
  intro happening listed does
  obtain ⟨position, found⟩ := List.mem_iff_getElem?.1 listed
  have inside : position < more.length := (List.getElem?_eq_some_iff.1 found).1
  have there : (before ++ more)[before.length + position]? = some happening := by
    rw [List.getElem?_append_right (Nat.le_add_right ..), Nat.add_sub_cancel_left, found]
  rw [List.length_append] at le
  obtain ⟨earlier, -⟩ := goesOn.origin _ _ _ (Nat.le_add_right ..) there does (by omega)
  omega

/-- What goes on twice goes on. The second time, only publications from before the first do something
besides those that begin. -/
theorem append (first : GoesOn outer before more) (second : GoesOn others (before ++ more) rest)
    (settled : ∀ place, before.length ≤ place → others place = []) :
    GoesOn (fun place => outer place ++ others place) before (more ++ rest) where
  earlier place lt := by
    have further : place < (before ++ more).length := by
      rw [List.length_append]
      omega
    rw [BusLog.deeds_append, first.earlier place lt, second.earlier place further]
  begun place key event le found := by
    rw [← List.append_assoc] at found ⊢
    rw [BusLog.deeds_append]
    by_cases inside : place < (before ++ more).length
    · rw [List.getElem?_append_left inside] at found
      rw [first.begun place key event le found, second.earlier place inside, settled place le,
        List.append_nil, List.take_append_of_le_length (Nat.le_of_lt inside)]
    · have beyond := Nat.le_of_not_lt inside
      rw [first.deeds_of_le beyond, second.begun place key event beyond found, List.nil_append]
  origin position happening place le found does after := by
    rw [← List.append_assoc] at found ⊢
    by_cases inside : position < (before ++ more).length
    · rw [List.getElem?_append_left inside] at found
      obtain ⟨lt, key, event, began⟩ := first.origin position happening place le found does after
      exact ⟨lt, key, event, by rw [List.getElem?_append_left (Nat.lt_trans lt inside), began]⟩
    · have beyond := Nat.le_of_not_lt inside
      refine second.origin position happening place beyond found does ?_
      -- a publication of the first part is silent in the second
      refine Nat.le_of_not_lt fun earlier => ?_
      rw [List.getElem?_append_right beyond] at found
      have done : happening ∈ rest.deeds place :=
        BusLog.mem_deeds.2 ⟨List.mem_of_getElem? found, does⟩
      rw [second.earlier place earlier, settled place after] at done
      cases done

/-- Nothing happens. -/
theorem nil : GoesOn (fun _ => []) before [] where
  earlier _ _ := rfl
  begun place key event le found := by
    rw [List.append_nil, List.getElem?_eq_none le] at found
    cases found
  origin position happening place le found := by
    rw [List.append_nil, List.getElem?_eq_none le] at found
    cases found

/-- One thing happens, which is not that a publication begins. -/
theorem single {happening : Happening ν σ} (idle : ∀ key event, happening ≠ .began key event)
    (earlier : ∀ place, happening.publication? = some place → place < before.length) :
    GoesOn (fun place => if happening.publication? = some place then [happening] else [])
      before [happening] where
  earlier place _ := BusLog.deeds_singleton happening
  begun place key event le found := by
    rw [List.getElem?_append_right le, List.getElem?_singleton] at found
    split at found
    · cases found
      exact absurd rfl (idle key event)
    · cases found
  origin position other place le found does after := by
    rw [List.getElem?_append_right le, List.getElem?_singleton] at found
    split at found
    · cases found
      exact absurd (earlier place does) (Nat.not_lt.2 after)
    · cases found

/-- A callback comes to be subscribed. -/
theorem subscribed (key : TypeKey) (callback : ν → Reaction ν σ) :
    GoesOn (fun _ => []) before [.subscribed key callback] := by
  have alone : GoesOn _ before [.subscribed key callback] :=
    single nofun (fun _ absent => by cases absent)
  exact alone.congr fun _ _ => rfl

/-- A publication begins, and what goes on from then is what it is to do. -/
theorem began {key : TypeKey} {event : ν} (goesOn : GoesOn outer (before ++ [.began key event]) more)
    (due : outer before.length = before.due key event) :
    GoesOn outer before (.began key event :: more) where
  earlier place lt := by
    rw [← goesOn.earlier place (by simp; omega)]
    rfl
  begun place other given le found := by
    rw [List.append_cons] at found ⊢
    have same : more.deeds place = BusLog.deeds (.began key event :: more) place := rfl
    rcases Nat.eq_or_lt_of_le le with rfl | lt
    · rw [List.append_assoc, List.getElem?_append_right (Nat.le_refl _), Nat.sub_self] at found
      cases found
      rw [← same, goesOn.earlier before.length (by simp), due, List.append_assoc, List.take_left]
    · rw [← same, goesOn.begun place other given (List.length_append ▸ lt) found]
  origin position happening place le found does after := by
    rw [List.append_cons] at found ⊢
    have here : (before ++ [.began key event] ++ more)[before.length]? = some (.began key event) := by
      simp
    rcases Nat.eq_or_lt_of_le le with rfl | lt
    · rw [here] at found
      cases found
      cases does
    · rcases Nat.eq_or_lt_of_le after with rfl | further
      · exact ⟨lt, key, event, here⟩
      · exact goesOn.origin position happening place (List.length_append ▸ lt) found does
          (List.length_append ▸ further)

/-- A publication begins, calls the callbacks that were subscribed under its key, and answers. -/
theorem publication {key : TypeKey} {event : ν}
    (calls : GoesOn (fun place => if place = before.length
      then (before.subscribers key).map (.called before.length · event) else [])
      (before ++ [.began key event]) more) :
    GoesOn (fun _ => []) before (.began key event
      :: (more ++ [.answered before.length (before.subscribers key).length])) := by
  have answer : GoesOn _ (before ++ [.began key event] ++ more)
      [.answered before.length (before.subscribers key).length] :=
    single nofun (by simp [Happening.publication?])
  have whole := (calls.append answer (by simp [Happening.publication?]; omega)).began
    (by simp [Happening.publication?, BusLog.due])
  apply whole.congr
  intro place lt
  simp [Happening.publication?, Nat.ne_of_lt lt, Nat.ne_of_gt lt]

end BusLog.GoesOn

/-! ### Runs -/

namespace LoggedRun

variable {outer others : Nat → BusLog ν σ} {before : BusLog ν σ} {current middle after : LoggedRun ν σ}

/-- The callbacks of each key are those that came to be subscribed according to the log. -/
def Faithful (current : LoggedRun ν σ) : Prop :=
  ∀ key, current.run.bus.callbacks key = current.log.subscribers key

/-- A run has come from a log to where it is, and its log went on as it should. -/
structure LedFrom (outer : Nat → BusLog ν σ) (before : BusLog ν σ) (after : LoggedRun ν σ) : Prop where
  faithful : after.Faithful
  grown : ∃ more, after.log = before ++ more ∧ BusLog.GoesOn outer before more

/-- Publications of this kind lead from faithful logs to faithful logs. -/
def Orderly (told : LoggedPublisher ν σ) : Prop :=
  ∀ ⦃key event current answer after⦄, Faithful current →
    told key event current = some (answer, after) → LedFrom (fun _ => []) current.log after

theorem LedFrom.refl (faithful : current.Faithful) : LedFrom (fun _ => []) current.log current where
  faithful := faithful
  grown := ⟨[], (List.append_nil _).symm, .nil⟩

theorem LedFrom.trans (first : LedFrom outer before middle)
    (second : LedFrom others middle.log after)
    (settled : ∀ place, before.length ≤ place → others place = []) :
    LedFrom (fun place => outer place ++ others place) before after where
  faithful := second.faithful
  grown := by
    obtain ⟨more, grown, goesOn⟩ := first.grown
    obtain ⟨rest, further, goesFurther⟩ := second.grown
    rw [grown] at goesFurther further
    exact ⟨more ++ rest, by rw [further, List.append_assoc], goesOn.append goesFurther settled⟩

theorem LedFrom.congr (led : LedFrom outer before after)
    (same : ∀ place < before.length, outer place = others place) : LedFrom others before after where
  faithful := led.faithful
  grown := by
    obtain ⟨more, grown, goesOn⟩ := led.grown
    exact ⟨more, grown, goesOn.congr same⟩

/-- What is not a subscription adds no callback. -/
theorem Faithful.note (faithful : current.Faithful) {happening : Happening ν σ}
    (other : ∀ key, happening.subscriber? key = none) : (current.note happening).Faithful := by
  intro key
  have same : (current.log ++ [happening]).subscribers key = current.log.subscribers key := by
    rw [BusLog.subscribers_append, BusLog.subscribers, BusLog.subscribers, List.filterMap_cons, other key,
      List.filterMap_nil, List.append_nil]
  exact (faithful key).trans same.symm

/-- A subscription adds its callback. -/
theorem Faithful.subscribe (faithful : current.Faithful) (key : TypeKey)
    (callback : ν → Reaction ν σ) :
    LedFrom (fun _ => []) current.log (LoggedRun.note
      { current with run.bus := current.run.bus.subscribe key callback } (.subscribed key callback)) where
  faithful := by
    intro other
    have more : (current.log ++ [Happening.subscribed key callback]).subscribers other
        = current.log.subscribers other ++ if key = other then [callback] else [] := by
      rw [BusLog.subscribers_append]
      by_cases same : key = other <;> simp [BusLog.subscribers, Happening.subscriber?, same]
    refine (Bus.callbacks_subscribe ..).trans (.trans ?_ more.symm)
    rw [faithful other]
    split
    · rfl
    · exact (List.append_nil _).symm
  grown := ⟨_, rfl, .subscribed key callback⟩

/-- A call is told of before anything that it leads to. -/
theorem Faithful.called (faithful : current.Faithful) {publication : Nat}
    (begun : publication < current.log.length) (callback : ν → Reaction ν σ) (event : ν) :
    LedFrom (fun place => if publication = place then [.called publication callback event] else [])
      current.log (current.note (.called publication callback event)) where
  faithful := faithful.note fun _ => rfl
  grown := by
    have told : BusLog.GoesOn _ current.log [.called publication callback event] :=
      .single nofun fun place same => by cases same; exact begun
    exact ⟨_, rfl, told.congr fun place _ => by simp [Happening.publication?]⟩

namespace Orderly

variable {told : LoggedPublisher ν σ}

/-- What a callback does leaves the publications alone that had begun before. -/
theorem runLogged (orderly : Orderly told) {reaction : Reaction ν σ} (faithful : current.Faithful)
    (ran : reaction.runLogged told current = some after) :
    LedFrom (fun _ => []) current.log after := by
  induction reaction generalizing current with
  | done =>
      cases ran
      exact .refl faithful
  | act change next ih =>
      have changed : Faithful { current with run.state := change current.run.state } := faithful
      have led := ih changed ran
      exact led
  | look next ih => exact ih _ faithful ran
  | subscribe key callback next _ ih =>
      have subscribed := faithful.subscribe key callback
      exact subscribed.trans (ih subscribed.faithful ran) fun _ _ => rfl
  | count key next ih => exact ih _ faithful ran
  | publish key event next ih =>
      rw [Reaction.runLogged] at ran
      split at ran
      · cases ran
      · next answer middle published =>
          have first := orderly faithful published
          exact first.trans (ih answer first.faithful ran) fun _ _ => rfl

/-- A publication calls the callbacks that it is given, each once and in order. -/
theorem call (orderly : Orderly told) {publication : Nat} {event : ν}
    {callbacks : List (ν → Reaction ν σ)} (faithful : current.Faithful)
    (begun : publication < current.log.length)
    (called : call told publication event callbacks current = some after) :
    LedFrom (fun place => if place = publication
      then callbacks.map (.called publication · event) else []) current.log after := by
  induction callbacks generalizing current with
  | nil =>
      cases called
      exact (LedFrom.refl faithful).congr fun place _ => (ite_self _).symm
  | cons callback rest ih =>
      rw [LoggedRun.call] at called
      split at called
      · cases called
      next middle reacted =>
      have calling := faithful.called begun callback event
      have reaction := orderly.runLogged calling.faithful reacted
      have through := calling.trans reaction fun _ _ => rfl
      have further : current.log.length ≤ middle.log.length := by
        obtain ⟨more, grown, -⟩ := through.grown
        rw [grown, List.length_append]
        exact Nat.le_add_right ..
      have others := ih reaction.faithful (Nat.lt_of_lt_of_le begun further) called
      apply (through.trans others fun place le => if_neg (by omega)).congr
      intro place _
      by_cases same : place = publication
      · simp [same]
      · simp [same, Ne.symm same]

end Orderly

/-- However deep publications nest, each does what it is to do. -/
theorem orderly_publish (depth : Nat) : Orderly (publish (ν := ν) (σ := σ) depth) := by
  induction depth with
  | zero =>
      intro key event current answer after faithful published
      cases published
  | succ depth ih =>
      intro key event current answer after faithful published
      rw [publish, Option.map_eq_some_iff] at published
      obtain ⟨called, calls, same⟩ := published
      cases same
      have began : (current.note (.began key event)).Faithful := faithful.note fun _ => rfl
      have led := Orderly.call ih began (by simp [note]) calls
      obtain ⟨more, grown, goesOn⟩ := led.grown
      rw [faithful key] at goesOn ⊢
      refine ⟨led.faithful.note fun _ => rfl, _, ?_, .publication goesOn⟩
      rw [note, grown, note]
      simp

end LoggedRun

/-! ### Every run -/

/-- Publications reach the callbacks that were subscribed when they began. A run on an empty bus that comes
to an end has a log, by which the callbacks of each key are those that came to be subscribed. A publication
that begins at some place of the log does this and nothing else: it calls the callbacks subscribed under its
key before that place, in the order of their subscription and each once, with its event, and then answers
with their number. So it calls just those callbacks that came to be subscribed before it began, and nothing
is called but by a publication that has begun. -/
theorem publications_reach_subscribers {reaction : Reaction ν σ} {depth : Nat} {state : σ}
    {after : BusRun ν σ} (ends : reaction.run (BusRun.publish depth) ⟨{}, state⟩ = some after) :
    ∃ log : BusLog ν σ,
      reaction.runLogged (LoggedRun.publish depth) ⟨⟨{}, state⟩, []⟩ = some ⟨after, log⟩
      ∧ (∀ key, after.bus.callbacks key = log.subscribers key)
      ∧ (∀ place key event, log[place]? = some (.began key event) →
        let callbacks := BusLog.subscribers (log.take place) key
        log.deeds place
          = callbacks.map (.called place · event) ++ [.answered place callbacks.length]
        ∧ ∀ callback, .called place callback event ∈ log
          ↔ ∃ earlier < place, log[earlier]? = some (.subscribed key callback))
      ∧ ∀ position (happening : Happening ν σ) place, log[position]? = some happening →
        happening.publication? = some place →
        place < position ∧ ∃ key event, log[place]? = some (.began key event) := by
  rw [← LoggedRun.run_runLogged (LoggedRun.tells_publish depth) reaction ⟨⟨{}, state⟩, []⟩,
    Option.map_eq_some_iff] at ends
  obtain ⟨⟨run, log⟩, ran, rfl⟩ := ends
  have faithful : LoggedRun.Faithful (⟨⟨{}, state⟩, []⟩ : LoggedRun ν σ) := fun _ => rfl
  have led := (LoggedRun.orderly_publish depth).runLogged faithful ran
  obtain ⟨more, grown, goesOn⟩ := led.grown
  obtain rfl : log = more := grown
  refine ⟨log, ran, led.faithful, ?_, ?_⟩
  · intro place key event began
    have deeds : log.deeds place = BusLog.due (log.take place) key event :=
      goesOn.begun place key event (Nat.zero_le _) began
    have length : (log.take place).length = place :=
      List.length_take_of_le (Nat.le_of_lt (List.getElem?_eq_some_iff.1 began).1)
    rw [BusLog.due, length] at deeds
    refine ⟨deeds, fun callback => ?_⟩
    have done : .called place callback event ∈ log.deeds place ↔ .called place callback event ∈ log := by
      rw [BusLog.mem_deeds]
      exact and_iff_left rfl
    rw [← done, deeds, ← BusLog.mem_take_iff, ← BusLog.mem_subscribers]
    simp
  · intro position happening place found does
    exact goesOn.origin position happening place (Nat.zero_le _) found does (Nat.zero_le _)

/-- Adds the event to the state. -/
def echo (event : Nat) : Reaction Nat Nat :=
  .act (· + event) .done

/-- The first time, subscribes an echo under its own key and publishes there again. -/
def relay (event : Nat) : Reaction Nat Nat :=
  .look fun state => if state = 0
    then .act (· + 1) (.subscribe .playerChat echo (.publish .playerChat (event + 1) fun _ => .done))
    else .done

/-- Publishes twice under a key with a relay. -/
def relayed : Reaction Nat Nat :=
  .subscribe .playerChat relay
    (.publish .playerChat 1 fun _ => .publish .playerChat 3 fun count => .act (· + count) .done)

/-- The first publication calls the relay alone, which subscribes the echo; the publication within the
relay and the one after it call both. -/
theorem publications_reach_subscribers_relayed :
    ∃ after, relayed.run (BusRun.publish 2) ⟨{}, 0⟩ = some after ∧ after.state = 8
      ∧ ∃ log, relayed.runLogged (LoggedRun.publish 2) ⟨⟨{}, 0⟩, []⟩ = some ⟨after, log⟩
        ∧ log.deeds 1 = [.called 1 relay 1, .answered 1 1]
        ∧ log.deeds 4 = [.called 4 relay 2, .called 4 echo 2, .answered 4 2]
        ∧ log.deeds 9 = [.called 9 relay 3, .called 9 echo 3, .answered 9 2] := by
  refine ⟨_, rfl, rfl, ?_⟩
  have ends : relayed.run (BusRun.publish 2) ⟨{}, 0⟩ = some _ := rfl
  obtain ⟨log, ran, -, reached, -⟩ := publications_reach_subscribers ends
  cases ran
  exact ⟨_, rfl, (reached 1 .playerChat 1 rfl).1, (reached 4 .playerChat 2 rfl).1,
    (reached 9 .playerChat 3 rfl).1⟩

end ScriptBridge
