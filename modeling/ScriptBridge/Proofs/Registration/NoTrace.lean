import ScriptBridge.Proofs.Registration.Calls
/-!
Refused calls leave no trace. The indexes of a ledger say of every name, key and wrapper where the lists
have it, so a call is refused on a ledger just when it is refused on the lists, and then before anything is
written. Hence a sequence of calls comes to what those of them come to that succeed.
-/

namespace ScriptBridge

/-! ### What the indexes say -/

/-- The place of the first type that has a name, counted from a number on, and whether it is the plural. -/
def placeOfName (name : String) : Nat → List TypeInfo → Option (Nat × Bool)
  | _, [] => none
  | place, info :: rest =>
    if info.name = name then some (place, false)
    else if info.plural = name then some (place, true)
    else placeOfName name (place + 1) rest

theorem placeOfName_append (name : String) (place : Nat) (types others : List TypeInfo) :
    placeOfName name place (types ++ others)
      = (placeOfName name place types).or (placeOfName name (place + types.length) others) := by
  induction types generalizing place with
  | nil => simp [placeOfName]
  | cons info rest ih =>
      rw [List.cons_append, placeOfName, placeOfName]
      split
      · rfl
      · split
        · rfl
        · rw [ih, List.length_cons, Nat.add_assoc, Nat.add_comm 1]

/-- A name has a place just if it is taken. -/
theorem isSome_placeOfName (name : String) (place : Nat) (types : List TypeInfo) :
    (placeOfName name place types).isSome
      = types.any fun info => info.name == name || info.plural == name := by
  induction types generalizing place with
  | nil => rfl
  | cons info rest ih =>
      rw [placeOfName, List.any_cons]
      split
      · simp_all
      · split <;> simp_all

/-- At the place of a name stands the type that a search for the name finds. -/
theorem getElem?_placeOfName (name : String) (before types : List TypeInfo) :
    ((placeOfName name before.length types).bind fun found =>
        (before ++ types)[found.1]?.map fun info => (info, found.2))
      = types.findSome? fun info =>
        if info.name = name then some (info, false)
        else if info.plural = name then some (info, true)
        else none := by
  induction types generalizing before with
  | nil => rfl
  | cons info rest ih =>
      rw [placeOfName, List.findSome?_cons]
      split
      · simp
      · split
        · simp
        · have shifted := ih (before ++ [info])
          simpa using shifted

/-- A new type has the places of its names, and the others keep theirs. -/
theorem placeOfName_concat (name : String) (types : List TypeInfo) (info : TypeInfo) :
    placeOfName name 0 (types ++ [info])
      = (placeOfName name 0 types).or
        (if info.name = name then some (types.length, false)
        else if info.plural = name then some (types.length, true)
        else none) := by
  rw [placeOfName_append, Nat.zero_add]
  rfl

/-- An index of first places stays right when the place of a new key is written to it. -/
theorem get?_insert_place {α : Type} {index : Table TypeKey Nat} {keyOf : α → TypeKey}
    {entries : List α} (right : ∀ key, index.get? key = entries.findIdx? (keyOf · = key)) {entry : α}
    (new : entries.find? (keyOf · = keyOf entry) = none) (key : TypeKey) :
    (index.insert (keyOf entry) entries.length).get? key
      = (entries ++ [entry]).findIdx? (keyOf · = key) := by
  rw [Table.get?_insert, List.findIdx?_append, right]
  by_cases same : keyOf entry = key
  · subst same
    have absent : entries.findIdx? (keyOf · = keyOf entry) = none := by
      rw [← Option.not_isSome_iff_eq_none, List.findIdx?_isSome, ← List.isSome_find?, new]
      exact Bool.false_ne_true
    simp [absent, List.findIdx?_cons]
  · simp [same, List.findIdx?_cons]

/-- The indexes of a ledger say where its lists have what they are asked for. -/
structure Ledger.Sound (ledger : Ledger) : Prop where
  names : ∀ name, ledger.byName.get? name = placeOfName name 0 ledger.registrar.types.types
  keys : ∀ key, ledger.byKey.get? key = ledger.registrar.types.types.findIdx? (·.key = key)
  wrappers : ∀ wrapper, ledger.byWrapper.get? wrapper
    = ledger.registrar.wrappers.entries.findIdx? (·.wrapper = wrapper)

namespace Ledger.Sound

variable {ledger : Ledger}

/-- The ledger of a registrar in which nothing has been registered. -/
theorem fresh : ({} : Ledger).Sound where
  names _ := rfl
  keys _ := rfl
  wrappers _ := rfl

/-- Looking a type up by name in the index is looking it up in the list. -/
theorem lookup_eq (sound : ledger.Sound) (name : String) :
    ledger.lookup name = ledger.registrar.types.lookup name := by
  have found := getElem?_placeOfName (Text.lowercase name) [] ledger.registrar.types.types
  rw [TypeRegistry.lookup, ← found, Ledger.lookup, sound.names]
  simp only [Option.bind_eq_bind, Option.pure_def, Option.map_eq_bind, List.nil_append]
  rfl

/-- So is looking it up by key. -/
theorem type?_eq (sound : ledger.Sound) (key : TypeKey) :
    ledger.type? key = ledger.registrar.types.get? key := by
  rw [TypeRegistry.get?, List.find?_eq_bind_findIdx?_getElem?, ← sound.keys]
  rfl

/-- And looking up the entry of a wrapper. -/
theorem wrapperOf?_eq (sound : ledger.Sound) (wrapper : TypeKey) :
    ledger.wrapperOf? wrapper = ledger.registrar.wrappers.get? wrapper := by
  rw [WrapperRegistry.get?, List.find?_eq_bind_findIdx?_getElem?, ← sound.wrappers]
  rfl

theorem contains_name (sound : ledger.Sound) (name : String) :
    ledger.byName.contains name = ledger.registrar.types.isTaken name := by
  rw [Table.contains, sound.names, isSome_placeOfName, TypeRegistry.isTaken]

theorem contains_key (sound : ledger.Sound) (key : TypeKey) :
    ledger.byKey.contains key = (ledger.registrar.types.get? key).isSome := by
  rw [Table.contains, sound.keys, TypeRegistry.get?, List.findIdx?_isSome, List.isSome_find?]

theorem isSome_wrapper (sound : ledger.Sound) (wrapper : TypeKey) :
    (ledger.byWrapper.get? wrapper).isSome = (ledger.registrar.wrappers.get? wrapper).isSome := by
  rw [sound.wrappers, WrapperRegistry.get?, List.findIdx?_isSome, List.isSome_find?]

/-! ### One call -/

/-- A name that is not taken has no place. -/
theorem get?_name (sound : ledger.Sound) {name : String}
    (free : ¬ ledger.registrar.types.isTaken name) :
    placeOfName name 0 ledger.registrar.types.types = none := by
  rw [← sound.names, ← Option.not_isSome_iff_eq_none]
  exact fun taken => free ((sound.contains_name name).symm.trans taken)

/-- With the names of a new type in the index, it is right for the longer list. -/
theorem names_concat (sound : ledger.Sound) {info : TypeInfo}
    (name : ¬ ledger.registrar.types.isTaken info.name)
    (plural : ¬ ledger.registrar.types.isTaken info.plural) (query : String) :
    (if info.plural = info.name then
        ledger.byName.insert info.name (ledger.registrar.types.types.length, false)
      else
        (ledger.byName.insert info.name (ledger.registrar.types.types.length, false)).insert info.plural
          (ledger.registrar.types.types.length, true)).get? query
      = placeOfName query 0 (ledger.registrar.types.types ++ [info]) := by
  have noName := sound.get?_name name
  have noPlural := sound.get?_name plural
  rw [placeOfName_concat]
  by_cases isName : info.name = query
  · subst isName
    by_cases same : info.plural = info.name
    · simp [same, Table.get?_insert, noName]
    · simp [same, Table.get?_insert, noName]
  · by_cases isPlural : info.plural = query
    · subst isPlural
      simp [Ne.symm isName, isName, Table.get?_insert, noPlural]
    · by_cases same : info.plural = info.name
      · simp [same, isName, Table.get?_insert, sound.names]
      · simp [same, isName, isPlural, Table.get?_insert, sound.names]

/-- What a call comes to on a ledger, next to what it makes of the registrar: it is refused and the ledger is
as it was, or it leaves a ledger of the registrar that it makes, whose indexes are right again. -/
inductive ComesTo (ledger : Ledger) :
    Except RegistrationError Unit × Ledger → Except RegistrationError Registrar → Prop where
  | refused (error : RegistrationError) : ComesTo ledger (.error error, ledger) (.error error)
  | done {next : Ledger} (sound : next.Sound) : ComesTo ledger (.ok (), next) (.ok next.registrar)

theorem type (sound : ledger.Sound) (info : TypeInfo) :
    ComesTo ledger (ledger.perform (.type info)) (ledger.registrar.enrol (.type info)) := by
  simp [Registrar.enrol, TypeRegistry.register, Ledger.perform, Call.steps, Registering.type,
    sound.contains_key, sound.contains_name]
  split
  · exact .refused _
  split
  · exact .refused _
  split
  · exact .refused _
  next key name plural =>
    have names := sound.names_concat name plural
    have keys := get?_insert_place sound.keys (Option.not_isSome_iff_eq_none.1 key)
    split
    · next same =>
        rw [if_pos same] at names
        exact .done ⟨names, keys, sound.wrappers⟩
    · next differs =>
        rw [if_neg differs] at names
        exact .done ⟨names, keys, sound.wrappers⟩

theorem entry (sound : ledger.Sound) (spec : WrapperSpec) (wrapper : TypeKey)
    (source : Option WrapperSource) :
    ComesTo ledger ((Registering.entry spec wrapper source).on ledger)
      ((ledger.registrar.wrappers.add spec wrapper source).map fun wrappers =>
        { ledger.registrar with wrappers }) := by
  simp [Registering.entry, sound.isSome_wrapper, sound.wrapperOf?_eq, WrapperRegistry.add]
  cases found : ledger.registrar.wrappers.get? wrapper with
  | some existing => exact .refused _
  | none =>
      cases compilePatterns spec.patterns with
      | error error => exact .refused error
      | ok patterns =>
          have wrappers := @get?_insert_place _ _ WrapperEntry.wrapper _ sound.wrappers
            { name := spec.name, wrapper, source, patterns, bases := spec.bases
              description := spec.description } found
          exact .done ⟨sound.names, sound.keys, wrappers⟩

/-- A call is refused on a ledger just when it is refused on its registrar, and then the ledger is as it
was. -/
theorem comesTo (sound : ledger.Sound) (call : Call) :
    ComesTo ledger (ledger.perform call) (ledger.registrar.enrol call) := by
  cases call with
  | type info => exact sound.type info
  | wrapper spec event native wrap? =>
      cases wrap? with
      | none => exact .refused _
      | some wrap => exact sound.entry spec event _
  | declared spec event => exact sound.entry spec event none
  | effect name patterns factory =>
      simp [Registrar.enrol, Grammar.addEffect, Ledger.perform, Call.steps, Registering.effect]
      cases compileEntry name patterns with
      | error error => exact .refused error
      | ok patterns => exact .done ⟨sound.names, sound.keys, sound.wrappers⟩
  | expression name patterns returns factory =>
      simp [Registrar.enrol, Grammar.addExpression, Ledger.perform, Call.steps, Registering.expression]
      cases compileEntry name patterns with
      | error error => exact .refused error
      | ok patterns => exact .done ⟨sound.names, sound.keys, sound.wrappers⟩

/-- The two ways in which a call can end. -/
theorem perform_cases (sound : ledger.Sound) (call : Call) :
    (∃ error, ledger.perform call = (.error error, ledger)
        ∧ ledger.registrar.enrol call = .error error)
      ∨ ∃ next : Ledger, next.Sound ∧ ledger.perform call = (.ok (), next)
        ∧ ledger.registrar.enrol call = .ok next.registrar := by
  have comesTo := sound.comesTo call
  generalize ledger.perform call = performed at comesTo
  generalize ledger.registrar.enrol call = enrolled at comesTo
  cases comesTo with
  | refused error => exact .inl ⟨error, rfl, rfl⟩
  | done next => exact .inr ⟨_, next, rfl, rfl⟩

theorem performAll (sound : ledger.Sound) (calls : List Call) : (ledger.performAll calls).Sound := by
  induction calls generalizing ledger with
  | nil => exact sound
  | cons call rest ih =>
      apply ih
      show (ledger.perform call).2.Sound
      rcases sound.perform_cases call with ⟨error, performed, -⟩ | ⟨next, right, performed, -⟩
      · rw [performed]
        exact sound
      · rw [performed]
        exact right

/-- A refused call leaves the ledger exactly as it was. -/
theorem eq_of_refused (sound : ledger.Sound) {call : Call} {error : RegistrationError}
    (refused : (ledger.perform call).1 = .error error) : (ledger.perform call).2 = ledger := by
  rcases sound.perform_cases call with ⟨error, performed, -⟩ | ⟨next, -, performed, -⟩
  · rw [performed]
  · rw [performed] at refused
    cases refused

end Ledger.Sound

/-! ### A sequence of calls -/

/-- A sequence of calls and those of them that are kept, made from the same ledger on: only refused calls are
left out. -/
inductive Ledger.Keeps : Ledger → List Call → List Call → Prop where
  | nil (ledger : Ledger) : Keeps ledger [] []
  | refused {ledger : Ledger} {call : Call} {rest kept : List Call} (error : RegistrationError)
      (same : ledger.perform call = (.error error, ledger)) (others : Keeps ledger rest kept) :
      Keeps ledger (call :: rest) kept
  | done {ledger next : Ledger} {call : Call} {rest kept : List Call}
      (performed : ledger.perform call = (.ok (), next))
      (enrolled : ledger.registrar.enrol call = .ok next.registrar)
      (others : Keeps next rest kept) : Keeps ledger (call :: rest) (call :: kept)

namespace Ledger

variable {ledger : Ledger}

theorem Sound.keeps (sound : ledger.Sound) (calls : List Call) :
    ledger.Keeps calls (ledger.accepted calls) := by
  induction calls generalizing ledger with
  | nil => exact .nil ledger
  | cons call rest ih =>
      rcases sound.perform_cases call with ⟨error, performed, -⟩ | ⟨next, right, performed, enrolled⟩
      · rw [accepted, performed]
        exact .refused error performed (ih sound)
      · rw [accepted, performed]
        exact .done performed enrolled (ih right)

namespace Keeps

variable {calls kept : List Call}

theorem sublist (keeps : ledger.Keeps calls kept) : kept.Sublist calls := by
  induction keeps with
  | nil => exact .slnil
  | refused error same others ih => exact ih.cons _
  | done performed enrolled others ih => exact ih.cons_cons _

/-- The calls that are kept leave the same ledger. -/
theorem performAll_eq (keeps : ledger.Keeps calls kept) :
    ledger.performAll calls = ledger.performAll kept := by
  induction keeps with
  | nil => rfl
  | refused error same others ih =>
      rw [performAll, List.foldl_cons, same]
      exact ih
  | done performed enrolled others ih =>
      rw [performAll, performAll, List.foldl_cons, List.foldl_cons, performed]
      exact ih

/-- None of them is refused when they are made alone. -/
theorem answers_ok (keeps : ledger.Keeps calls kept) :
    ∀ answer ∈ ledger.answers kept, answer = .ok () := by
  induction keeps with
  | nil => simp [answers]
  | refused error same others ih => exact ih
  | done performed enrolled others ih =>
      rw [answers, performed]
      exact List.forall_mem_cons.2 ⟨rfl, ih⟩

/-- They are what the lists of the registrar hold in the end. -/
theorem enrol_eq (keeps : ledger.Keeps calls kept) :
    kept.foldlM Registrar.enrol ledger.registrar = .ok (ledger.performAll calls).registrar := by
  induction keeps with
  | nil => rfl
  | refused error same others ih =>
      rw [performAll, List.foldl_cons, same]
      exact ih
  | done performed enrolled others ih =>
      rw [List.foldlM_cons, enrolled, performAll, List.foldl_cons, performed]
      exact ih

end Keeps

/-- Refused calls leave no trace. In every sequence of calls, one that is refused leaves the ledger as it was,
indexes included. So the calls that succeed, made alone, all succeed and leave the same ledger, whose indexes
find what a search of its lists finds; and closing its registrar gives what closing gives once these calls
alone are enrolled. -/
theorem refused_calls_leave_no_trace (sound : ledger.Sound) (calls : List Call) :
    (∀ before call after error, calls = before ++ call :: after →
      ((ledger.performAll before).perform call).1 = .error error →
      ((ledger.performAll before).perform call).2 = ledger.performAll before)
    ∧ (ledger.accepted calls).Sublist calls
    ∧ (∀ answer ∈ ledger.answers (ledger.accepted calls), answer = .ok ())
    ∧ ledger.performAll calls = ledger.performAll (ledger.accepted calls)
    ∧ (ledger.performAll calls).registrar.close
      = (ledger.accepted calls).foldlM Registrar.enrol ledger.registrar >>= Registrar.close
    ∧ (∀ name, (ledger.performAll calls).lookup name
      = (ledger.performAll calls).registrar.types.lookup name)
    ∧ (∀ key, (ledger.performAll calls).type? key = (ledger.performAll calls).registrar.types.get? key)
    ∧ (∀ wrapper, (ledger.performAll calls).wrapperOf? wrapper
      = (ledger.performAll calls).registrar.wrappers.get? wrapper) := by
  have keeps := sound.keeps calls
  have final := sound.performAll calls
  refine ⟨?_, keeps.sublist, keeps.answers_ok, keeps.performAll_eq, ?_, final.lookup_eq,
    final.type?_eq, final.wrapperOf?_eq⟩
  · intro before call after error _ refused
    exact (sound.performAll before).eq_of_refused refused
  · rw [keeps.enrol_eq]
    rfl

/-- Calls of which some are refused: for a plural that is taken, for want of a constructor, for a wrapper that
has an entry, and for the second of two patterns. -/
def clashingCalls : List Call :=
  [.type (.named (.named "Apple") "apple"),
    .type ((TypeInfo.named (.named "Pear") "pear").withPlural "apples"),
    .wrapper { name := "fall" } (.named "Fall") (.named "NativeFall") none,
    .declared { name := "fall", patterns := ["[the] fall of %apple%"] } (.named "Fall"),
    .declared { name := "fall", patterns := ["drop"] } (.named "Fall"),
    .effect "Eat" ["eat %apple%", "eat (%apple%"] fun _ => none,
    .effect "Eat" ["eat %apple%"] fun _ => none]

theorem refused_calls_leave_no_trace_clashing :
    ({} : Ledger).Sound
      ∧ (({} : Ledger).answers clashingCalls).map (·.isOk) = [true, false, false, true, false, false, true]
      ∧ ({} : Ledger).performAll clashingCalls
        = ({} : Ledger).performAll (({} : Ledger).accepted clashingCalls) := by
  refine ⟨.fresh, ?_, (refused_calls_leave_no_trace .fresh clashingCalls).2.2.2.1⟩
  with_unfolding_all rfl

end Ledger

end ScriptBridge
