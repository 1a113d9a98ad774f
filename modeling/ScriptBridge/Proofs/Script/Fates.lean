import Mathlib.Data.List.Nodup
import Mathlib.Data.List.Perm.Basic
import ScriptBridge.Proofs.Script.Paragraphs
/-!
The fates of lines. A line that holds anything is kept, as the header of a trigger or as an effect of one;
or it is reported, under its own number; or it is passed over below a header that names no event. Main
statements: the errors are the reports in another order, what triggers are made of is what is kept, and
what stands below headers that are reported for naming no event is what is passed over.
-/

namespace ScriptBridge.Script

/-- What becomes of a line that holds anything. -/
inductive Fate where
  | kept
  | reported (fault : ScriptFault)
  | passedOver
deriving DecidableEq

/-- The error about a line, if it is reported. -/
def Fate.error? (script : String) (line : NumberedLine) : Fate → Option ScriptError
  | .kept => none
  | .reported fault => some (errorAt script line fault)
  | .passedOver => none

/-- The kept ones of these lines. -/
def keptAmong (fates : List (NumberedLine × Fate)) : List NumberedLine :=
  (fates.filter (·.2 = .kept)).map (·.1)

/-- The errors about these lines. -/
def errorsAmong (script : String) (fates : List (NumberedLine × Fate)) : List ScriptError :=
  fates.filterMap fun entry => entry.2.error? script entry.1

section

variable (registries : Registries) (world : World)

/-- The fate of a line below the header of an event. -/
def effectFate (event : TypeKey) (line : NumberedLine) : Fate :=
  if (effectIn? registries world event line).isSome then .kept
  else .reported (.unknownEffect (textOf line.1))

/-- The fate of a header with these lines below it. -/
def headerFate (header : EventMatch) (body : List NumberedLine) : Fate :=
  if (body.filterMap (effectIn? registries world header.event)).isEmpty then
    .reported (.emptyTrigger header.name)
  else .kept

/-- The fates of the lines of a paragraph. -/
def Paragraph.fates (paragraph : Paragraph) : List (NumberedLine × Fate) :=
  match heading registries world (textOf paragraph.head.1) with
  | .error fault => (paragraph.head, .reported fault) :: paragraph.body.map (·, .passedOver)
  | .ok header =>
    (paragraph.head, headerFate registries world header paragraph.body)
      :: paragraph.body.map fun line => (line, effectFate registries world header.event line)

/-- The fates of the lines of an outline. -/
def Outline.fates (outline : Outline) : List (NumberedLine × Fate) :=
  outline.leading.map (·, .reported .orphanEffect)
    ++ outline.paragraphs.flatMap (Paragraph.fates registries world)

/-- Whether a trigger is made of a line: the header of the paragraph, or a line below it that stands for one
of the effects. -/
def Paragraph.Keeps (script : String) (paragraph : Paragraph) (line : NumberedLine) : Prop :=
  ∃ trigger, paragraph.trigger? registries world script = some trigger
    ∧ (line = paragraph.head
      ∨ line ∈ paragraph.body
        ∧ ∃ effect ∈ trigger.effects, effectIn? registries world trigger.event line = some effect)

/-- Whether a trigger of an outline is made of a line. -/
def Outline.Keeps (script : String) (outline : Outline) (line : NumberedLine) : Prop :=
  ∃ paragraph ∈ outline.paragraphs, paragraph.Keeps registries world script line

/-- Whether a line stands below a header that is reported because it names no event. -/
def Paragraph.PassesOver (errors : List ScriptError) (paragraph : Paragraph) (line : NumberedLine) : Prop :=
  line ∈ paragraph.body
    ∧ ∃ error ∈ errors, error.line = paragraph.head.2
      ∧ ((∃ event, error.fault = .unknownEvent event) ∨ ∃ text, error.fault = .notATrigger text)

/-- Whether a line of an outline stands below such a header. -/
def Outline.PassesOver (errors : List ScriptError) (outline : Outline) (line : NumberedLine) : Prop :=
  ∃ paragraph ∈ outline.paragraphs, paragraph.PassesOver errors line

/-- A paragraph without the lines below its header that stand for no effect. -/
def Paragraph.effectsOnly (event : TypeKey) (paragraph : Paragraph) : Paragraph :=
  { paragraph with
    body := paragraph.body.filter fun line => (effectIn? registries world event line).isSome }

/-- What is left of a paragraph without the lines that are reported. -/
def Paragraph.kept? (script : String) (paragraph : Paragraph) : Option Paragraph :=
  (paragraph.trigger? registries world script).map fun trigger =>
    paragraph.effectsOnly registries world trigger.event

/-- What is left of an outline without the lines that are reported or passed over. -/
def Outline.kept (script : String) (outline : Outline) : Outline where
  paragraphs := outline.paragraphs.filterMap (Paragraph.kept? registries world script)

end

section Fates

variable {registries : Registries} {world : World} {script : String}
variable {paragraph : Paragraph} {outline : Outline} {line : NumberedLine} {fate : Fate}

theorem Paragraph.fates_of_error {fault : ScriptFault}
    (wrong : heading registries world (textOf paragraph.head.1) = .error fault) :
    paragraph.fates registries world
      = (paragraph.head, .reported fault) :: paragraph.body.map (·, .passedOver) := by
  rw [fates, wrong]

theorem Paragraph.fates_of_ok {header : EventMatch}
    (understood : heading registries world (textOf paragraph.head.1) = .ok header) :
    paragraph.fates registries world
      = (paragraph.head, headerFate registries world header paragraph.body)
        :: paragraph.body.map fun line => (line, effectFate registries world header.event line) := by
  rw [fates, understood]

/-- A header that names no event is reported as one of two kinds. -/
theorem fault_of_heading {text : String} {fault : ScriptFault}
    (wrong : heading registries world text = .error fault) :
    (∃ event, fault = .unknownEvent event) ∨ ∃ text, fault = .notATrigger text := by
  rw [heading] at wrong
  split at wrong
  · cases wrong
    exact Or.inr ⟨text, rfl⟩
  · next event _ =>
      split at wrong
      · cases wrong
        exact Or.inl ⟨event, rfl⟩
      · cases wrong

/-- Every line has a fate. -/
theorem Outline.fates_lines (outline : Outline) :
    (outline.fates registries world).map (·.1) = outline.lines := by
  have each (paragraph : Paragraph) :
      (paragraph.fates registries world).map (·.1) = paragraph.lines := by
    rw [Paragraph.fates]
    split
    · simp [Paragraph.lines, Function.comp_def]
    · simp [Paragraph.lines, Function.comp_def]
  simp [fates, lines, List.map_flatMap, each, Function.comp_def]

/-! ### The errors are the reports -/

@[simp]
theorem errorsAmong_nil : errorsAmong script [] = [] :=
  rfl

@[simp]
theorem errorsAmong_cons (entry : NumberedLine × Fate) (rest : List (NumberedLine × Fate)) :
    errorsAmong script (entry :: rest)
      = (entry.2.error? script entry.1).toList ++ errorsAmong script rest := by
  cases reported : entry.2.error? script entry.1 with
  | none => simp [errorsAmong, reported]
  | some error => simp [errorsAmong, reported]

@[simp]
theorem errorsAmong_append (fates rest : List (NumberedLine × Fate)) :
    errorsAmong script (fates ++ rest) = errorsAmong script fates ++ errorsAmong script rest :=
  List.filterMap_append

theorem errorsAmong_passedOver (body : List NumberedLine) :
    errorsAmong script (body.map (·, .passedOver)) = [] := by
  simp [errorsAmong, Fate.error?]

theorem errorsAmong_effectFate (event : TypeKey) (body : List NumberedLine) :
    errorsAmong script (body.map fun line => (line, effectFate registries world event line))
      = (body.filter fun line => (effectIn? registries world event line).isNone).map
          fun line => errorAt script line (.unknownEffect (textOf line.1)) := by
  induction body with
  | nil => rfl
  | cons line rest ih =>
      rw [List.map_cons, errorsAmong_cons, ih, effectFate]
      cases reads : effectIn? registries world event line with
      | none => simp [reads, Fate.error?]
      | some effect => simp [reads, Fate.error?]

/-- The errors of a paragraph are its reports: that a trigger has no effects comes last, at its end. -/
theorem Paragraph.errors_perm (paragraph : Paragraph) :
    (paragraph.errors registries world script).Perm
      (errorsAmong script (paragraph.fates registries world)) := by
  cases understood : heading registries world (textOf paragraph.head.1) with
  | error fault =>
      rw [errors_of_error understood, fates_of_error understood, errorsAmong_cons,
        errorsAmong_passedOver]
      exact .refl _
  | ok header =>
      rw [errors_of_ok understood, fates_of_ok understood, errorsAmong_cons, errorsAmong_effectFate]
      apply List.perm_append_comm.trans
      rw [headerFate]
      split
      · exact .refl _
      · exact .refl _

/-- The errors of an outline are its reports in another order. -/
theorem Outline.errors_perm (outline : Outline) :
    (outline.errors registries world script).Perm
      (errorsAmong script (outline.fates registries world)) := by
  rw [errors, fates, errorsAmong_append]
  apply List.Perm.append
  · simp [errorsAmong, Fate.error?]
  · rw [errorsAmong, List.filterMap_flatMap]
    exact List.Perm.flatMap_left _ fun paragraph _ => paragraph.errors_perm

theorem filter_errorsAmong (number : Nat) (fates : List (NumberedLine × Fate)) :
    (errorsAmong script fates).filter (·.line = number)
      = errorsAmong script (fates.filter (·.1.2 = number)) := by
  induction fates with
  | nil => rfl
  | cons entry rest ih =>
      obtain ⟨line, fate⟩ := entry
      rw [errorsAmong_cons, List.filter_append, ih, List.filter_cons]
      cases fate with
      | kept => split <;> simp [Fate.error?]
      | reported fault =>
          by_cases same : line.2 = number
          · simp [same, Fate.error?, errorAt]
          · simp [same, Fate.error?, errorAt]
      | passedOver => split <;> simp [Fate.error?]

theorem filter_eq_singleton {α β : Type} [DecidableEq β] (f : α → β) {as : List α} {a : α}
    (distinct : (as.map f).Nodup) (listed : a ∈ as) : as.filter (f · = f a) = [a] := by
  induction as with
  | nil => cases listed
  | cons b rest ih =>
      rw [List.map_cons, List.nodup_cons, List.mem_map] at distinct
      rcases List.mem_cons.1 listed with rfl | later
      · rw [List.filter_cons_of_pos (by simp), List.filter_eq_nil_iff.2]
        intro other listed
        simp only [decide_eq_true_eq]
        intro same
        exact distinct.1 ⟨other, listed, same⟩
      · rw [List.filter_cons_of_neg, ih distinct.2 later]
        simp only [decide_eq_true_eq]
        intro same
        exact distinct.1 ⟨a, later, same.symm⟩

theorem eq_toList_of_perm {α : Type} {as : List α} {a? : Option α} (same : as.Perm a?.toList) :
    as = a?.toList := by
  cases a? with
  | none => exact List.perm_nil.1 same
  | some a => exact List.perm_singleton.1 same

variable (distinct : (outline.lines.map (·.2)).Nodup)
include distinct

theorem Outline.nodup_fates : ((outline.fates registries world).map (·.1.2)).Nodup := by
  rwa [← outline.fates_lines, List.map_map] at distinct

/-- A line has no other fate. -/
theorem Outline.fate_unique {other : Fate} (listed : (line, fate) ∈ outline.fates registries world)
    (too : (line, other) ∈ outline.fates registries world) : fate = other :=
  congrArg (·.2) (List.inj_on_of_nodup_map (outline.nodup_fates distinct) listed too rfl)

/-- The errors under the number of a line are what is reported of that line. -/
theorem Outline.errors_of_line (listed : (line, fate) ∈ outline.fates registries world) :
    (outline.errors registries world script).filter (·.line = line.2)
      = (fate.error? script line).toList := by
  have alone : (outline.fates registries world).filter (·.1.2 = line.2) = [(line, fate)] :=
    filter_eq_singleton (·.1.2) (outline.nodup_fates distinct) listed
  apply eq_toList_of_perm
  have reports := (@errors_perm registries world script outline).filter (·.line = line.2)
  rw [filter_errorsAmong, alone] at reports
  simpa using reports

omit distinct

/-! ### The kept lines are those of triggers -/

@[simp]
theorem keptAmong_cons (entry : NumberedLine × Fate) (rest : List (NumberedLine × Fate)) :
    keptAmong (entry :: rest)
      = if entry.2 = .kept then entry.1 :: keptAmong rest else keptAmong rest := by
  by_cases kept : entry.2 = .kept
  · simp [keptAmong, kept]
  · simp [keptAmong, kept]

@[simp]
theorem keptAmong_append (fates rest : List (NumberedLine × Fate)) :
    keptAmong (fates ++ rest) = keptAmong fates ++ keptAmong rest := by
  simp [keptAmong]

theorem mem_keptAmong {fates : List (NumberedLine × Fate)} :
    line ∈ keptAmong fates ↔ (line, .kept) ∈ fates := by
  simp [keptAmong]

theorem keptAmong_of_ne_kept {body : List NumberedLine} (lost : fate ≠ .kept) :
    keptAmong (body.map (·, fate)) = [] := by
  rw [List.eq_nil_iff_forall_not_mem]
  intro line kept
  obtain ⟨_, _, same⟩ := List.mem_map.1 (mem_keptAmong.1 kept)
  exact lost (congrArg (·.2) same)

theorem keptAmong_effectFate (event : TypeKey) (body : List NumberedLine) :
    keptAmong (body.map fun line => (line, effectFate registries world event line))
      = body.filter fun line => (effectIn? registries world event line).isSome := by
  induction body with
  | nil => rfl
  | cons line rest ih =>
      rw [List.map_cons, keptAmong_cons, ih, effectFate]
      cases reads : effectIn? registries world event line with
      | none => simp [reads]
      | some effect => simp [reads]

/-- The kept lines of a paragraph are what is left of it. -/
theorem Paragraph.keptAmong_fates (script : String) (paragraph : Paragraph) :
    keptAmong (paragraph.fates registries world)
      = (paragraph.kept? registries world script).toList.flatMap Paragraph.lines := by
  cases understood : heading registries world (textOf paragraph.head.1) with
  | error fault =>
      rw [fates_of_error understood, kept?, trigger?_of_error understood, keptAmong_cons,
        keptAmong_of_ne_kept (by simp)]
      simp
  | ok header =>
      rw [fates_of_ok understood, kept?, trigger?_of_ok understood, keptAmong_cons,
        keptAmong_effectFate, headerFate]
      split
      · next bare =>
          -- a header is given up only if no line below it is kept either
          rw [List.isEmpty_iff, List.filterMap_eq_nil_iff] at bare
          simpa using bare
      · simp [effectsOnly, lines]

/-- The kept lines of an outline are what is left of it. -/
theorem Outline.keptAmong_fates (script : String) (outline : Outline) :
    keptAmong (outline.fates registries world)
      = (outline.kept registries world script).lines := by
  rw [fates, keptAmong_append, keptAmong_of_ne_kept (by simp), kept, lines]
  induction outline.paragraphs with
  | nil => rfl
  | cons paragraph rest ih =>
      rw [List.flatMap_cons, keptAmong_append, paragraph.keptAmong_fates script]
      cases left : paragraph.kept? registries world script with
      | none => simpa [left] using ih
      | some shorter => simpa [left] using ih

theorem Paragraph.runs_iff {trigger : Trigger}
    (becomes : paragraph.trigger? registries world script = some trigger)
    (inside : line ∈ paragraph.body) :
    (∃ effect ∈ trigger.effects, effectIn? registries world trigger.event line = some effect)
      ↔ (effectIn? registries world trigger.event line).isSome := by
  rw [effects_eq becomes, Option.isSome_iff_exists]
  constructor
  · rintro ⟨effect, -, reads⟩
    exact ⟨effect, reads⟩
  · rintro ⟨effect, reads⟩
    exact ⟨effect, List.mem_filterMap.2 ⟨line, inside, reads⟩, reads⟩

/-- A trigger is made of the lines that are left of its paragraph. -/
theorem Paragraph.keeps_iff :
    paragraph.Keeps registries world script line
      ↔ (line, .kept) ∈ paragraph.fates registries world := by
  rw [← mem_keptAmong, paragraph.keptAmong_fates script, Keeps, kept?]
  cases becomes : paragraph.trigger? registries world script with
  | none => simp
  | some trigger =>
      simp only [Option.some.injEq, exists_eq_left', Option.map_some, Option.toList_some,
        List.flatMap_singleton, effectsOnly, lines, List.mem_cons, List.mem_filter]
      exact or_congr_right (and_congr_right (runs_iff becomes))

theorem Outline.keeps_iff :
    outline.Keeps registries world script line ↔ (line, .kept) ∈ outline.fates registries world := by
  simp [Keeps, fates, Paragraph.keeps_iff]

/-! ### The lines that are passed over -/

theorem Paragraph.passedOver_mem_fates :
    (line, .passedOver) ∈ paragraph.fates registries world
      ↔ line ∈ paragraph.body
        ∧ ∃ fault, heading registries world (textOf paragraph.head.1) = .error fault := by
  cases understood : heading registries world (textOf paragraph.head.1) with
  | error fault => simp [fates_of_error understood]
  | ok header =>
      have head : headerFate registries world header paragraph.body ≠ .passedOver := by
        rw [headerFate]
        split <;> simp
      have body (line : NumberedLine) :
          effectFate registries world header.event line ≠ .passedOver := by
        rw [effectFate]
        split <;> simp
      simp [fates_of_ok understood, head.symm, body]

/-- What is reported of a header that names an event is that there are no effects below it. -/
theorem Outline.fault_of_header (distinct : (outline.lines.map (·.2)).Nodup)
    (listed : paragraph ∈ outline.paragraphs) {header : EventMatch}
    (understood : heading registries world (textOf paragraph.head.1) = .ok header)
    {error : ScriptError} (reported : error ∈ outline.errors registries world script)
    (number : error.line = paragraph.head.2) : error.fault = .emptyTrigger header.name := by
  have head : (paragraph.head, headerFate registries world header paragraph.body)
      ∈ outline.fates registries world := by
    apply List.mem_append_right
    apply List.mem_flatMap_of_mem listed
    rw [Paragraph.fates_of_ok understood]
    exact List.mem_cons_self ..
  have about := @errors_of_line registries world script outline _ _ distinct head
  have among : error ∈ ((headerFate registries world header paragraph.body).error? script
      paragraph.head).toList := by
    rw [← about, List.mem_filter]
    exact ⟨reported, decide_eq_true number⟩
  rw [headerFate] at among
  split at among
  · rw [Fate.error?, Option.toList_some, List.mem_singleton] at among
    rw [among, errorAt]
  · cases among

/-- The lines that are passed over are those below a header that is reported because it names no event. -/
theorem Outline.passesOver_iff (distinct : (outline.lines.map (·.2)).Nodup) :
    outline.PassesOver (outline.errors registries world script) line
      ↔ (line, .passedOver) ∈ outline.fates registries world := by
  have through : (line, .passedOver) ∈ outline.fates registries world
      ↔ ∃ paragraph ∈ outline.paragraphs, (line, .passedOver) ∈ paragraph.fates registries world := by
    simp [fates]
  rw [through, PassesOver]
  refine exists_congr fun paragraph => and_congr_right fun listed => ?_
  rw [Paragraph.passedOver_mem_fates, Paragraph.PassesOver]
  refine and_congr_right fun _ => ?_
  cases understood : heading registries world (textOf paragraph.head.1) with
  | error fault =>
      refine iff_of_true ?_ ⟨fault, rfl⟩
      refine ⟨errorAt script paragraph.head fault, ?_, rfl, fault_of_heading understood⟩
      apply List.mem_append_right
      apply List.mem_flatMap_of_mem listed
      rw [Paragraph.errors_of_error understood]
      exact List.mem_singleton_self _
  | ok header =>
      refine iff_of_false ?_ (by simp)
      rintro ⟨error, reported, number, kind⟩
      rw [outline.fault_of_header distinct listed understood reported number] at kind
      simp at kind

end Fates

end ScriptBridge.Script
