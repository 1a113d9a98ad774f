import ScriptBridge.Proofs.Script.Lines
import ScriptBridge.Proofs.Startup.Scripts
/-!
Scripts one below the other. When the upper one ends with a line, and the lower one does not begin with an
indented line, no block runs across the seam: the first header of the lower script ends the last block of the
upper one just as the end of the text does. Main statement: to load both as one script is to load them in
turn, but that the errors about the lower one carry the numbers that its lines have below the upper one.
-/

namespace ScriptBridge

/-- The same error about a line that stands so many lines further down. -/
def ScriptError.below (count : Nat) (error : ScriptError) : ScriptError :=
  { error with line := error.line + count }

namespace Script

/-- A text that is empty, or that a line feed ends. -/
def EndsWithLine (source : String) : Prop :=
  source = "" ∨ ∃ front : String, source = front ++ "\n"

/-- A script whose first line that holds anything stands without indentation, if there is one. -/
def BeginsPlain (source : String) : Prop :=
  ∀ line, (lines source).find? (contentOf · ≠ .blank) = some line →
    contentOf line = .plain (textOf line)

/-! ### Lines -/

theorem linesFrom_append_feed (current front rest : List Char) :
    linesFrom current (front ++ '\n' :: rest)
      = linesFrom current (front ++ ['\n']) ++ linesFrom [] rest := by
  induction front generalizing current with
  | nil => simp [linesFrom_cons, linesFrom]
  | cons c front ih =>
      rw [List.cons_append, List.cons_append, linesFrom_cons, linesFrom_cons]
      split
      · rw [ih, List.cons_append]
      · exact ih _

/-- What is written below a text that ends with a line adds lines of its own. -/
theorem lines_append {upper : String} (ended : EndsWithLine upper) (lower : String) :
    lines (upper ++ lower) = lines upper ++ lines lower := by
  rcases ended with rfl | ⟨front, rfl⟩
  · rw [String.empty_append]
    rfl
  · simp only [lines, String.toList_append, List.append_assoc]
    exact linesFrom_append_feed [] front.toList lower.toList

/-- The lines of the lower text are numbered on from those of the upper one. -/
theorem numbered_append {upper : String} (ended : EndsWithLine upper) (lower : String) :
    numbered (upper ++ lower)
      = numbered upper ++ (lines lower).zipIdx (1 + (lines upper).length) := by
  rw [numbered, lines_append ended, List.zipIdx_append, numbered]

/-! ### Outlines -/

theorem leading_outlineOf {lines : List NumberedLine}
    (begins : ∀ line, lines.find? (contentOf ·.1 ≠ .blank) = some line →
      contentOf line.1 = .plain (textOf line.1)) :
    (outlineOf lines).leading = [] := by
  induction lines with
  | nil => rfl
  | cons line rest ih =>
      rw [outlineOf]
      split
      · next blank =>
          apply ih
          intro first found
          apply begins
          rw [List.find?_cons_of_neg (by simp [blank]), found]
      · next text indented =>
          have plain := begins line (List.find?_cons_of_pos (by simp [indented]))
          rw [indented] at plain
          cases plain
      · rfl

theorem BeginsPlain.leading {source : String} (begins : BeginsPlain source) (first : Nat) :
    (outlineOf ((lines source).zipIdx first)).leading = [] := by
  apply leading_outlineOf
  intro line found
  apply begins line.1
  rw [← List.zipIdx_map_fst first (lines source), List.find?_map]
  exact congrArg (Option.map Prod.fst) found

/-- Below other lines, an outline without leading lines goes on with its paragraphs. -/
theorem outlineOf_append (upper : List NumberedLine) {lower : List NumberedLine}
    (begins : (outlineOf lower).leading = []) :
    outlineOf (upper ++ lower)
      = { leading := (outlineOf upper).leading
          paragraphs := (outlineOf upper).paragraphs ++ (outlineOf lower).paragraphs } := by
  induction upper with
  | nil => rw [List.nil_append, outlineOf, List.nil_append, ← begins]
  | cons line rest ih =>
      rw [List.cons_append, outlineOf, outlineOf, ih]
      cases contentOf line.1 with
      | blank => rfl
      | indented text => rfl
      | plain text => rfl

/-! ### Numbers -/

theorem zipIdx_alike (lines : List (List Char)) (count first : Nat) :
    List.Forall₂ (Alike fun number later => later = number + count) (lines.zipIdx first)
      (lines.zipIdx (first + count)) := by
  induction lines generalizing first with
  | nil => exact .nil
  | cons line rest ih =>
      rw [List.zipIdx_cons, List.zipIdx_cons, Nat.add_right_comm]
      exact .cons ⟨rfl, rfl⟩ (ih (first + 1))

theorem eq_map_below {errors others : List ScriptError} {count : Nat}
    (alike : List.Forall₂ (ErrorsAlike fun number later => later = number + count) errors others) :
    others = errors.map (.below count) := by
  induction alike with
  | nil => rfl
  | @cons error other _ _ here _ ih =>
      obtain ⟨script, line, fault⟩ := here
      rw [List.map_cons, ← ih, ScriptError.below, script, ← line, fault]

/-- A script below another one comes to the same triggers as by itself, and to the same errors further
down. -/
theorem readScript_append (registries : Registries) (world : World) (name : String)
    {upper lower : String} (ended : EndsWithLine upper) (begins : BeginsPlain lower) :
    let above := registries.readScript world name upper
    let below := registries.readScript world name lower
    let whole := registries.readScript world name (upper ++ lower)
    whole.errors = above.errors ++ below.errors.map (.below (lines upper).length)
      ∧ whole.triggers = above.triggers ++ below.triggers := by
  intro above below whole
  obtain ⟨errors_above, triggers_above⟩ := readScript_eq registries world name upper
  obtain ⟨errors_below, triggers_below⟩ := readScript_eq registries world name lower
  obtain ⟨errors_whole, triggers_whole⟩ := readScript_eq registries world name (upper ++ lower)
  have alike : List.Forall₂ (Alike fun number later => later = number + (lines upper).length)
      (numbered lower) ((lines lower).zipIdx (1 + (lines upper).length)) :=
    zipIdx_alike (lines lower) (lines upper).length 1
  have leading := begins.leading (1 + (lines upper).length)
  rw [numbered_append ended, outlineOf_append _ leading] at errors_whole triggers_whole
  constructor
  · have shifted := eq_map_below (@errors_outlineOf_alike registries world name _ _ _ alike)
    rw [Outline.errors, leading, List.map_nil, List.nil_append] at shifted
    rw [errors_whole, errors_above, errors_below, ← shifted]
    simp only [Outline.errors, List.flatMap_append, List.append_assoc]
  · rw [triggers_whole, triggers_above, triggers_below, triggers_outlineOf_alike alike]
    simp only [Outline.triggers, List.filterMap_append]

end Script

open Script

/-- Scripts compose. To load a script that is written below one that ends with a line, and that does not
begin with an indented line, registers the triggers of the upper one and then those of the lower one, as it
does to load them in turn; and it comes to the errors about the upper one, followed by those about the lower
one under the numbers that its lines have there. -/
theorem SealedContext.loadScript_append (context : SealedContext) (scene : Scene) (name : String)
    {upper lower : String} (ended : EndsWithLine upper) (begins : BeginsPlain lower) :
    let first := context.loadScript scene name upper
    let second := first.context.loadScript first.scene name lower
    let whole := context.loadScript scene name (upper ++ lower)
    whole.context = second.context
      ∧ whole.context.handlers.entries
        = context.handlers.entries
          ++ (first.script.triggers ++ second.script.triggers).map Trigger.entry
      ∧ whole.script.triggers = first.script.triggers ++ second.script.triggers
      ∧ whole.script.triggers.length
        = first.script.triggers.length + second.script.triggers.length
      ∧ whole.script.errors
        = first.script.errors ++ second.script.errors.map (.below (lines upper).length)
      ∧ second.script = (context.loadScript scene name lower).script := by
  intro first second whole
  have unchanged : first.context.registries = context.registries :=
    (context.addTriggers_eq first.script.triggers).1
  have alone : second.script = (context.loadScript scene name lower).script := by
    show LoadedScript.mk _ _ _ = LoadedScript.mk _ _ _
    rw [unchanged]
    rfl
  obtain ⟨errors, triggers⟩ :=
    readScript_append context.registries scene.world name ended begins
  have triggers : whole.script.triggers = first.script.triggers ++ second.script.triggers := by
    rw [alone]
    exact triggers
  have errors : whole.script.errors
      = first.script.errors ++ second.script.errors.map (.below (lines upper).length) := by
    rw [alone]
    exact errors
  have registered : whole.context
      = context.addTriggers (first.script.triggers ++ second.script.triggers) := by
    rw [← triggers]
    rfl
  refine ⟨?_, ?_, triggers, ?_, errors, alone⟩
  · rw [registered, addTriggers, List.foldl_append]
    rfl
  · rw [registered]
    exact (context.addTriggers_eq _).2
  · rw [triggers, List.length_append]

/-- A context that knows one event, and one effect for it. -/
def laconic : SealedContext where
  registries := {
    types := {}
    values := {
      getters := {}
      wrappers := {
        entries := [{
          name := "load", wrapper := .scriptLoad, source := none
          patterns := [{ source := "load", nodes := [.literal "load"], slotCount := 0 }]
          bases := [], description := none }] } }
    grammar := {
      effects := [{
        name := "wait"
        patterns := [{ source := "wait", nodes := [.literal "wait"], slotCount := 0 }]
        factory := fun _ => some {
          description := "wait"
          perform := fun event scene => ⟨event.cancelled, scene, .ok ()⟩ } }] } }
  handlers := {}

/-- A trigger that the upper script leaves open ends where the lower one begins, and each script is in error
about its second line, the lower one two lines further down. -/
theorem loadScript_append_laconic :
    let scene : Scene := { world := { bodies := [] } }
    let whole := laconic.loadScript scene "a" ("on load:\n jump\n" ++ "on load:\n sing\n wait")
    EndsWithLine "on load:\n jump\n" ∧ BeginsPlain "on load:\n sing\n wait"
      ∧ whole.script.triggers.map Trigger.name = ["a: on load"]
      ∧ whole.script.errors
        = [⟨"a", 2, .unknownEffect "jump"⟩, ⟨"a", 1, .emptyTrigger "load"⟩,
            ⟨"a", 4, .unknownEffect "sing"⟩] := by
  intro scene whole
  have ended : EndsWithLine "on load:\n jump\n" := .inr ⟨"on load:\n jump", by decide⟩
  have begins : BeginsPlain "on load:\n sing\n wait" := by
    intro line found
    have first : (lines "on load:\n sing\n wait").find? (contentOf · ≠ .blank)
        = some "on load:".toList := by
      decide +kernel
    obtain rfl := Option.some.inj (first.symm.trans found)
    decide +kernel
  obtain ⟨-, -, triggers, -, errors, -⟩ := laconic.loadScript_append scene "a" ended begins
  refine ⟨ended, begins, ?_, ?_⟩
  · rw [triggers]
    decide +kernel
  · rw [errors]
    decide +kernel

end ScriptBridge
