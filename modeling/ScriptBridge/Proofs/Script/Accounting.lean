import ScriptBridge.Proofs.Script.Fates
import ScriptBridge.Proofs.Script.Lines
/-!
Every line of a script is accounted for, by a trigger or by an error, and what is kept is a script of its
own: written down again, it is read without errors and comes to the same triggers. That the lines get other
numbers there, and other ends, makes no difference to what they hold.
-/

namespace ScriptBridge.Script

section Keeping

variable {registries : Registries} {world : World} {script : String}
variable {paragraph : Paragraph} {outline : Outline}

theorem Paragraph.filterMap_effectsOnly (event : TypeKey) (paragraph : Paragraph) :
    (paragraph.effectsOnly registries world event).body.filterMap (effectIn? registries world event)
      = paragraph.body.filterMap (effectIn? registries world event) := by
  rw [effectsOnly, List.filterMap_filter]
  apply List.filterMap_congr
  intro line _
  cases reads : effectIn? registries world event line with
  | none => simp
  | some effect => simp

theorem Paragraph.filter_effectsOnly (event : TypeKey) (paragraph : Paragraph) :
    ((paragraph.effectsOnly registries world event).body.filter fun line =>
      (effectIn? registries world event line).isNone) = [] := by
  rw [effectsOnly, List.filter_filter, List.filter_eq_nil_iff]
  intro line _
  cases effectIn? registries world event line with
  | none => simp
  | some effect => simp

/-- What is left of a paragraph comes to the same trigger, without errors. -/
theorem Paragraph.kept?_spec {left : Paragraph}
    (holds : paragraph.kept? registries world script = some left) :
    left.trigger? registries world script = paragraph.trigger? registries world script
      ∧ left.errors registries world script = [] := by
  cases understood : heading registries world (textOf paragraph.head.1) with
  | error fault =>
      rw [kept?, trigger?_of_error understood] at holds
      cases holds
  | ok header =>
      rw [kept?, trigger?_of_ok understood] at holds
      split at holds
      · cases holds
      · next filled =>
          obtain rfl : paragraph.effectsOnly registries world header.event = left := by
            simpa using holds
          have still : heading registries world
              (textOf (paragraph.effectsOnly registries world header.event).head.1) = .ok header :=
            understood
          rw [trigger?_of_ok still, trigger?_of_ok understood, errors_of_ok still,
            filterMap_effectsOnly, filter_effectsOnly, if_neg filled, if_neg filled]
          exact ⟨rfl, rfl⟩

/-- What is left of an outline comes to the same triggers. -/
theorem Outline.triggers_kept (script : String) (outline : Outline) :
    (outline.kept registries world script).triggers registries world script
      = outline.triggers registries world script := by
  rw [triggers, triggers, kept, List.filterMap_filterMap]
  apply List.filterMap_congr
  intro paragraph _
  cases left : paragraph.kept? registries world script with
  | none =>
      rw [Paragraph.kept?, Option.map_eq_none_iff] at left
      exact left.symm
  | some shorter => exact (Paragraph.kept?_spec left).1

/-- What is left of an outline has no errors. -/
theorem Outline.errors_kept (script : String) (outline : Outline) :
    (outline.kept registries world script).errors registries world script = [] := by
  simp only [errors, kept, List.map_nil, List.nil_append, List.flatMap_eq_nil_iff]
  intro shorter listed
  obtain ⟨paragraph, _, left⟩ := List.mem_filterMap.1 listed
  exact (Paragraph.kept?_spec left).2

theorem Outline.WellFormed.kept (script : String) (wellFormed : outline.WellFormed) :
    (outline.kept registries world script).WellFormed := by
  have origin : ∀ shorter ∈ (outline.kept registries world script).paragraphs,
      ∃ paragraph ∈ outline.paragraphs,
        shorter.head = paragraph.head ∧ shorter.body ⊆ paragraph.body := by
    intro shorter listed
    obtain ⟨paragraph, above, left⟩ := List.mem_filterMap.1 listed
    obtain ⟨trigger, _, rfl⟩ := Option.map_eq_some_iff.1 left
    exact ⟨paragraph, above, rfl, List.filter_subset_self _⟩
  constructor
  · intro line listed
    cases listed
  · intro shorter listed
    obtain ⟨paragraph, listed, head, -⟩ := origin shorter listed
    rw [head]
    exact wellFormed.heads paragraph listed
  · intro shorter listed line inside
    obtain ⟨paragraph, listed, -, body⟩ := origin shorter listed
    exact wellFormed.bodies paragraph listed line (body inside)

end Keeping

/-! ### Scripts -/

theorem nodup_numbered (source : String) : ((numbered source).map (·.2)).Nodup := by
  rw [numbered, List.zipIdx_map_snd]
  exact List.nodup_range'

theorem nodup_outlineOf (source : String) : ((outlineOf (numbered source)).lines.map (·.2)).Nodup := by
  rw [lines_outlineOf]
  exact (nodup_numbered source).sublist (List.filter_sublist.map _)

/-- Lines that are written one below the other hold the same again. -/
theorem numbered_unlines_alike {kept : List NumberedLine} (unbroken : ∀ line ∈ kept, '\n' ∉ line.1) :
    List.Forall₂ (Alike fun _ _ => True) kept (numbered (unlines (kept.map (·.1)))) := by
  rw [numbered, lines_unlines (List.forall_mem_map.2 unbroken), List.map_map]
  clear unbroken
  generalize 1 = first
  induction kept generalizing first with
  | nil => exact .nil
  | cons line rest ih =>
      rw [List.map_cons, List.zipIdx_cons]
      exact .cons ⟨(contentOf_dropReturn line.1).symm, trivial⟩ (ih _)

theorem unbroken_of_mem_numbered {source : String} {line : NumberedLine}
    (listed : line ∈ numbered source) : '\n' ∉ line.1 :=
  not_mem_lines (List.fst_mem_of_mem_zipIdx listed)

section

variable (registries : Registries) (world : World) (script source : String)

/-- The lines of a script that are kept. -/
def keptLines : List NumberedLine :=
  ((outlineOf (numbered source)).kept registries world script).lines

theorem mem_keptLines {line : NumberedLine} :
    line ∈ keptLines registries world script source
      ↔ (outlineOf (numbered source)).Keeps registries world script line := by
  rw [Outline.keeps_iff, ← mem_keptAmong, Outline.keptAmong_fates script, keptLines]

theorem keptLines_sublist : (keptLines registries world script source).Sublist (numbered source) := by
  have lines : (outlineOf (numbered source)).lines.Sublist (numbered source) := by
    rw [lines_outlineOf]
    exact List.filter_sublist
  rw [keptLines, ← Outline.keptAmong_fates]
  refine .trans ?_ lines
  rw [← (outlineOf (numbered source)).fates_lines]
  exact List.filter_sublist.map _

/-- Reading nothing but the kept lines comes to the same triggers, without errors. -/
theorem readScript_keptLines :
    let kept := unlines ((keptLines registries world script source).map (·.1))
    (registries.readScript world script kept).errors = []
      ∧ (registries.readScript world script kept).triggers
        = (registries.readScript world script source).triggers := by
  intro kept
  -- the lines are numbered anew, but no error is left to carry a number
  have alike : List.Forall₂ (Alike fun _ _ => True) (keptLines registries world script source)
      (numbered kept) :=
    numbered_unlines_alike fun line listed =>
      unbroken_of_mem_numbered ((keptLines_sublist registries world script source).subset listed)
  have same : outlineOf (keptLines registries world script source)
      = (outlineOf (numbered source)).kept registries world script :=
    outlineOf_lines ((outlineOf_wellFormed _).kept script)
  obtain ⟨-, triggers⟩ := readScript_eq registries world script source
  obtain ⟨errors_again, triggers_again⟩ := readScript_eq registries world script kept
  constructor
  · have none_left := @errors_outlineOf_alike registries world script _ _ _ alike
    rw [same, Outline.errors_kept, List.forall₂_nil_left_iff] at none_left
    rw [errors_again, none_left]
  · rw [triggers_again, ← triggers_outlineOf_alike alike, same, Outline.triggers_kept, triggers]

variable {source}

/-- A line that holds anything has a fate, and no other. -/
theorem fate_of_line {line : NumberedLine} (listed : line ∈ numbered source)
    (holds : contentOf line.1 ≠ .blank) :
    let outline := outlineOf (numbered source)
    let errors := outline.errors registries world script
    ∃ fate : Fate,
      (outline.Keeps registries world script line ↔ fate = .kept)
        ∧ errors.filter (·.line = line.2) = (fate.error? script line).toList
        ∧ (outline.PassesOver errors line ↔ fate = .passedOver) := by
  intro outline errors
  have distinct := nodup_outlineOf source
  have among : line ∈ (outline.fates registries world).map (·.1) := by
    rw [outline.fates_lines, lines_outlineOf, List.mem_filter]
    exact ⟨listed, decide_eq_true holds⟩
  obtain ⟨⟨line, fate⟩, found, rfl⟩ := List.mem_map.1 among
  have only (other : Fate) : (line, other) ∈ outline.fates registries world ↔ fate = other := by
    constructor
    · exact fun too => outline.fate_unique distinct found too
    · rintro rfl
      exact found
  refine ⟨fate, ?_, outline.errors_of_line distinct found, ?_⟩
  · rw [outline.keeps_iff, only]
  · rw [outline.passesOver_iff distinct, only]

end

end Script

open Script

theorem SealedContext.loadScript_errors (context : SealedContext) (scene : Scene) (name source : String) :
    (context.loadScript scene name source).script.errors
      = (context.registries.readScript scene.world name source).errors :=
  rfl

theorem SealedContext.loadScript_triggers (context : SealedContext) (scene : Scene)
    (name source : String) :
    (context.loadScript scene name source).script.triggers
      = (context.registries.readScript scene.world name source).triggers :=
  rfl

theorem SealedContext.loadScript_context (context : SealedContext) (scene : Scene)
    (name source : String) :
    (context.loadScript scene name source).context
      = context.addTriggers (context.loadScript scene name source).script.triggers :=
  rfl

/-- A loaded script accounts for each of its lines. A line that holds anything is either kept, as the header
of a registered trigger or as one of its effects, or it is reported by one error under its number, or it
stands below a header that is reported because it names no event. The kept lines alone load without errors
to the same triggers. -/
theorem SealedContext.loadScript_accounts (context : SealedContext) (scene : Scene)
    (name source : String) :
    let registries := context.registries
    let loading := context.loadScript scene name source
    let outline := outlineOf (numbered source)
    let errorsOf := fun line : NumberedLine => loading.script.errors.filter (·.line = line.2)
    let kept := keptLines registries scene.world name source
    let again := context.loadScript scene name (unlines (kept.map (·.1)))
    (loading.script.triggers = outline.triggers registries scene.world name
        ∧ loading.context = context.addTriggers loading.script.triggers)
      ∧ (∀ line ∈ numbered source, contentOf line.1 ≠ .blank →
          (outline.Keeps registries scene.world name line
              ∧ errorsOf line = []
              ∧ ¬outline.PassesOver loading.script.errors line)
            ∨ (¬outline.Keeps registries scene.world name line
              ∧ (∃ fault, errorsOf line = [errorAt name line fault])
              ∧ ¬outline.PassesOver loading.script.errors line)
            ∨ (¬outline.Keeps registries scene.world name line
              ∧ errorsOf line = []
              ∧ outline.PassesOver loading.script.errors line))
      ∧ (kept.Sublist (numbered source)
        ∧ ∀ line, line ∈ kept ↔ outline.Keeps registries scene.world name line)
      ∧ again.script.errors = []
      ∧ again.script.triggers = loading.script.triggers
      ∧ again.context = loading.context := by
  intro registries loading outline errorsOf kept again
  obtain ⟨errors, triggers⟩ := readScript_eq registries scene.world name source
  have reads := readScript_keptLines registries scene.world name source
  rw [← context.loadScript_errors scene name] at errors
  rw [← context.loadScript_triggers scene name] at triggers
  have clean : again.script.errors = [] := (context.loadScript_errors scene name _).trans reads.1
  have same : again.script.triggers = loading.script.triggers :=
    (context.loadScript_triggers scene name _).trans
      (reads.2.trans (context.loadScript_triggers scene name _).symm)
  have registered : again.context = loading.context := by
    rw [context.loadScript_context, context.loadScript_context, same]
  refine ⟨⟨?_, ?_⟩, ?_, ⟨keptLines_sublist registries scene.world name source, ?_⟩, clean,
    same, registered⟩
  · exact triggers
  · exact context.loadScript_context scene name source
  · intro line listed holds
    obtain ⟨fate, keeps, about, passes⟩ := fate_of_line registries scene.world name listed holds
    rw [← errors] at about passes
    cases fate with
    | kept => exact Or.inl ⟨keeps.2 rfl, about, mt passes.1 (by simp)⟩
    | reported fault =>
        exact Or.inr (Or.inl ⟨mt keeps.1 (by simp), ⟨fault, about⟩, mt passes.1 (by simp)⟩)
    | passedOver => exact Or.inr (Or.inr ⟨mt keeps.1 (by simp), about, passes.2 rfl⟩)
  · intro line
    exact mem_keptLines registries scene.world name source

end ScriptBridge
