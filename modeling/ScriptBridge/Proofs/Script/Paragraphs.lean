import ScriptBridge.Proofs.Script.Outline
import ScriptBridge.Script.Reader
/-!
What paragraphs come to. Main statement: what the reader comes to line by line, with its open block and
what it keeps back until a block ends, is what the paragraphs come to one by one. Lines that hold the same
come to the same triggers, and to the same faults.
-/

namespace ScriptBridge.Script

section Reading

variable (registries : Registries) (world : World)

/-- What a header says: the event that it names, or what is wrong with it. -/
def heading (text : String) : Except ScriptFault EventMatch :=
  match headerEvent? text with
  | none => .error (.notATrigger text)
  | some event =>
    match registries.parseEvent world event with
    | none => .error (.unknownEvent event)
    | some header => .ok header

/-- The effect that a line stands for below the header of an event. -/
def effectIn? (event : TypeKey) (line : NumberedLine) : Option Effect :=
  (registries.searchEffect world (textOf line.1) { context := .script, event := some event }).effect?

variable (script : String)

/-- The error about a line. -/
def errorAt (line : NumberedLine) (fault : ScriptFault) : ScriptError where
  script
  line := line.2
  fault

/-- The trigger that an open block becomes when it ends. -/
def OpenTrigger.trigger? (opened : OpenTrigger) : Option Trigger :=
  if opened.effects.isEmpty then none
  else
    some
      { event := opened.header.event
        name := script ++ ": on " ++ opened.header.name
        effects := opened.effects }

/-- The error about an open block that ends without effects. -/
def OpenTrigger.errors (opened : OpenTrigger) : List ScriptError :=
  if opened.effects.isEmpty then
    [{ script, line := opened.line, fault := .emptyTrigger opened.header.name }]
  else []

/-- An open block with the effects of further lines. -/
def OpenTrigger.withLines (opened : OpenTrigger) (body : List NumberedLine) : OpenTrigger :=
  { opened with
    effects := opened.effects ++ body.filterMap (effectIn? registries world opened.header.event) }

/-- The errors about indented lines that are still to come to a block, and about its end. -/
def Block.errorsWith (body : List NumberedLine) : Block → List ScriptError
  | .outside => body.map (errorAt script · .orphanEffect)
  | .skipped => []
  | .trigger opened =>
    (body.filter fun line => (effectIn? registries world opened.header.event line).isNone).map
        (fun line => errorAt script line (.unknownEffect (textOf line.1)))
      ++ (opened.withLines registries world body).errors script

/-- The trigger that a block becomes with the indented lines that are still to come to it. -/
def Block.triggerWith? (body : List NumberedLine) : Block → Option Trigger
  | .outside => none
  | .skipped => none
  | .trigger opened => (opened.withLines registries world body).trigger? script

/-- The block that a header opens. -/
def blockUnder (head : NumberedLine) : Block :=
  match heading registries world (textOf head.1) with
  | .error _ => .skipped
  | .ok header => .trigger { header, line := head.2 }

/-- The errors about a header when it is read. -/
def errorsOn (head : NumberedLine) : List ScriptError :=
  match heading registries world (textOf head.1) with
  | .error fault => [errorAt script head fault]
  | .ok _ => []

/-- The errors about a paragraph. -/
def Paragraph.errors (paragraph : Paragraph) : List ScriptError :=
  errorsOn registries world script paragraph.head
    ++ (blockUnder registries world paragraph.head).errorsWith registries world script paragraph.body

/-- The trigger that a paragraph becomes. -/
def Paragraph.trigger? (paragraph : Paragraph) : Option Trigger :=
  (blockUnder registries world paragraph.head).triggerWith? registries world script paragraph.body

variable {registries world script}

theorem withLines_nil (opened : OpenTrigger) : opened.withLines registries world [] = opened := by
  simp [OpenTrigger.withLines]

theorem withLines_cons (opened : OpenTrigger) (line : NumberedLine) (rest : List NumberedLine) :
    opened.withLines registries world (line :: rest)
      = { opened with
            effects := opened.effects ++ (effectIn? registries world opened.header.event line).toList
        }.withLines registries world rest := by
  cases read : effectIn? registries world opened.header.event line with
  | none => simp [OpenTrigger.withLines, List.filterMap_cons_none read]
  | some effect => simp [OpenTrigger.withLines, List.filterMap_cons_some read]

theorem closeBlock_eq (reading : Reading) :
    (reading.closeBlock script).errors
        = reading.errors ++ reading.block.errorsWith registries world script []
      ∧ (reading.closeBlock script).triggers
          = reading.triggers ++ (reading.block.triggerWith? registries world script []).toList := by
  obtain ⟨block, triggers, errors, notices⟩ := reading
  cases block with
  | outside => simp [Reading.closeBlock, Block.errorsWith, Block.triggerWith?]
  | skipped => simp [Reading.closeBlock, Block.errorsWith, Block.triggerWith?]
  | trigger opened =>
      simp only [Reading.closeBlock, Block.errorsWith, Block.triggerWith?, withLines_nil,
        OpenTrigger.errors, OpenTrigger.trigger?]
      split
      · simp [Reading.report]
      · simp

/-- An indented line is read as the next one that comes to the block. -/
theorem readIndented_eq (reading : Reading) (line : NumberedLine) (rest : List NumberedLine) :
    let next := reading.readIndented registries world script line.2 (textOf line.1)
    next.errors ++ next.block.errorsWith registries world script rest
        = reading.errors ++ reading.block.errorsWith registries world script (line :: rest)
      ∧ next.triggers = reading.triggers
      ∧ next.block.triggerWith? registries world script rest
          = reading.block.triggerWith? registries world script (line :: rest) := by
  obtain ⟨block, triggers, errors, notices⟩ := reading
  cases block with
  | outside => simp [Reading.readIndented, Reading.report, Block.errorsWith, Block.triggerWith?, errorAt]
  | skipped => simp [Reading.readIndented, Block.errorsWith, Block.triggerWith?]
  | trigger opened =>
      simp only [Reading.readIndented, Reading.addEffect, Block.errorsWith, Block.triggerWith?,
        withLines_cons]
      split
      · next effect read =>
          have reads : effectIn? registries world opened.header.event line = some effect := read
          simp [reads]
      · next unread =>
          have reads : effectIn? registries world opened.header.event line = none := unread
          simp [Reading.report, reads, errorAt]

/-- A line without indentation ends the block and opens the next one. -/
theorem readPlain_eq (reading : Reading) (line : NumberedLine) :
    let next := reading.readPlain registries world script line.2 (textOf line.1)
    next.block = blockUnder registries world line
      ∧ next.errors
          = reading.errors ++ reading.block.errorsWith registries world script []
            ++ errorsOn registries world script line
      ∧ next.triggers
          = reading.triggers ++ (reading.block.triggerWith? registries world script []).toList := by
  obtain ⟨errors, triggers⟩ := @closeBlock_eq registries world script reading
  simp only [Reading.readPlain, blockUnder, errorsOn, heading]
  rw [← errors, ← triggers]
  cases headerEvent? (textOf line.1) with
  | none => simp [Reading.report, errorAt]
  | some event =>
      simp only
      cases registries.parseEvent world event with
      | none => simp [Reading.report, errorAt]
      | some header => simp

/-- Reading lines and ending the last block adds what the rest of the open block comes to, and then what
the paragraphs come to. -/
theorem closeBlock_foldl_readLine (lines : List NumberedLine) (reading : Reading) :
    let final := (lines.foldl (Reading.readLine registries world script) reading).closeBlock script
    let outline := outlineOf lines
    final.errors
        = reading.errors ++ reading.block.errorsWith registries world script outline.leading
          ++ outline.paragraphs.flatMap (Paragraph.errors registries world script)
      ∧ final.triggers
          = reading.triggers ++ (reading.block.triggerWith? registries world script outline.leading).toList
            ++ outline.paragraphs.filterMap (Paragraph.trigger? registries world script) := by
  -- what leads the outline of the lines that are left is what is still to come to the open block
  induction lines generalizing reading with
  | nil =>
      obtain ⟨errors, triggers⟩ := @closeBlock_eq registries world script reading
      simp [outlineOf, errors, triggers]
  | cons line rest ih =>
      rw [List.foldl_cons, outlineOf, Reading.readLine]
      cases kind : contentOf line.1 with
      | blank => exact ih reading
      | indented text =>
          rw [textOf_of_indented kind]
          obtain ⟨errors, triggers, trigger⟩ :=
            @readIndented_eq registries world script reading line (outlineOf rest).leading
          obtain ⟨later_errors, later_triggers⟩ :=
            ih (reading.readIndented registries world script line.2 (textOf line.1))
          exact ⟨by rw [later_errors, errors], by rw [later_triggers, triggers, trigger]⟩
      | plain text =>
          rw [textOf_of_plain kind]
          obtain ⟨block, errors, triggers⟩ := @readPlain_eq registries world script reading line
          obtain ⟨later_errors, later_triggers⟩ :=
            ih (reading.readPlain registries world script line.2 (textOf line.1))
          constructor
          · rw [later_errors, block, errors, List.flatMap_cons, Paragraph.errors]
            simp only [List.append_assoc]
          · rw [later_triggers, block, triggers, List.filterMap_cons, Paragraph.trigger?]
            cases (blockUnder registries world line).triggerWith? registries world script
                (outlineOf rest).leading with
            | none => simp
            | some trigger => simp

/-! ### Paragraphs by their headers -/

variable {paragraph : Paragraph}

theorem Paragraph.errors_of_error {fault : ScriptFault}
    (wrong : heading registries world (textOf paragraph.head.1) = .error fault) :
    paragraph.errors registries world script = [errorAt script paragraph.head fault] := by
  simp only [errors, errorsOn, blockUnder, wrong, Block.errorsWith, List.append_nil]

theorem Paragraph.trigger?_of_error {fault : ScriptFault}
    (wrong : heading registries world (textOf paragraph.head.1) = .error fault) :
    paragraph.trigger? registries world script = none := by
  simp only [trigger?, blockUnder, wrong, Block.triggerWith?]

theorem Paragraph.errors_of_ok {header : EventMatch}
    (understood : heading registries world (textOf paragraph.head.1) = .ok header) :
    paragraph.errors registries world script
      = (paragraph.body.filter fun line => (effectIn? registries world header.event line).isNone).map
            (fun line => errorAt script line (.unknownEffect (textOf line.1)))
          ++ if (paragraph.body.filterMap (effectIn? registries world header.event)).isEmpty then
              [errorAt script paragraph.head (.emptyTrigger header.name)]
            else [] := by
  simp only [errors, errorsOn, blockUnder, understood, Block.errorsWith, OpenTrigger.withLines,
    OpenTrigger.errors, errorAt, List.nil_append]

theorem Paragraph.trigger?_of_ok {header : EventMatch}
    (understood : heading registries world (textOf paragraph.head.1) = .ok header) :
    paragraph.trigger? registries world script
      = if (paragraph.body.filterMap (effectIn? registries world header.event)).isEmpty then none
        else
          some
            { event := header.event
              name := script ++ ": on " ++ header.name
              effects := paragraph.body.filterMap (effectIn? registries world header.event) } := by
  simp only [trigger?, blockUnder, understood, Block.triggerWith?, OpenTrigger.withLines,
    OpenTrigger.trigger?, List.nil_append]

/-- The effects of a trigger are what the lines below its header stand for. -/
theorem Paragraph.effects_eq {trigger : Trigger}
    (becomes : paragraph.trigger? registries world script = some trigger) :
    trigger.effects = paragraph.body.filterMap (effectIn? registries world trigger.event) := by
  cases understood : heading registries world (textOf paragraph.head.1) with
  | error fault =>
      rw [trigger?_of_error understood] at becomes
      cases becomes
  | ok header =>
      rw [trigger?_of_ok understood] at becomes
      split at becomes
      · cases becomes
      · cases becomes
        rfl

/-- The errors about the lines of an outline, in the order in which they are found. -/
def Outline.errors (registries : Registries) (world : World) (script : String) (outline : Outline) :
    List ScriptError :=
  outline.leading.map (errorAt script · .orphanEffect)
    ++ outline.paragraphs.flatMap (Paragraph.errors registries world script)

/-- The triggers that the paragraphs of an outline become. -/
def Outline.triggers (registries : Registries) (world : World) (script : String) (outline : Outline) :
    List Trigger :=
  outline.paragraphs.filterMap (Paragraph.trigger? registries world script)

/-- A script comes to the errors and the triggers of its outline. -/
theorem readScript_eq (registries : Registries) (world : World) (script source : String) :
    (registries.readScript world script source).errors
        = (outlineOf (numbered source)).errors registries world script
      ∧ (registries.readScript world script source).triggers
        = (outlineOf (numbered source)).triggers registries world script := by
  obtain ⟨errors, triggers⟩ :=
    @closeBlock_foldl_readLine registries world script (numbered source) {}
  exact ⟨errors, triggers⟩

/-! ### Lines that hold the same -/

/-- Errors about related lines with the same fault. -/
def ErrorsAlike (related : Nat → Nat → Prop) (error other : ScriptError) : Prop :=
  error.script = other.script ∧ related error.line other.line ∧ error.fault = other.fault

variable {related : Nat → Nat → Prop} {other : Paragraph}

theorem errorAt_alike {line other : NumberedLine} (alike : Alike related line other) (fault : ScriptFault) :
    ErrorsAlike related (errorAt script line fault) (errorAt script other fault) :=
  ⟨rfl, alike.2, rfl⟩

theorem unknownEffect_alike {line other : NumberedLine} (alike : Alike related line other) :
    ErrorsAlike related (errorAt script line (.unknownEffect (textOf line.1)))
      (errorAt script other (.unknownEffect (textOf other.1))) := by
  rw [alike.textOf]
  exact errorAt_alike alike _

theorem effectIn?_alike {line other : NumberedLine} (alike : Alike related line other) (event : TypeKey) :
    effectIn? registries world event line = effectIn? registries world event other := by
  rw [effectIn?, alike.textOf, effectIn?]

theorem filterMap_effectIn?_alike {body others : List NumberedLine}
    (alike : List.Forall₂ (Alike related) body others) (event : TypeKey) :
    body.filterMap (effectIn? registries world event)
      = others.filterMap (effectIn? registries world event) := by
  induction alike with
  | nil => rfl
  | cons here _ ih => rw [List.filterMap_cons, List.filterMap_cons, effectIn?_alike here, ih]

theorem Paragraph.Alike.trigger?_eq (alike : paragraph.Alike related other) :
    paragraph.trigger? registries world script = other.trigger? registries world script := by
  cases understood : heading registries world (textOf paragraph.head.1) with
  | error fault =>
      rw [trigger?_of_error understood, trigger?_of_error (alike.head.textOf ▸ understood)]
  | ok header =>
      rw [trigger?_of_ok understood, trigger?_of_ok (alike.head.textOf ▸ understood),
        filterMap_effectIn?_alike alike.body]

theorem Paragraph.Alike.errors (alike : paragraph.Alike related other) :
    List.Forall₂ (ErrorsAlike related) (paragraph.errors registries world script)
      (other.errors registries world script) := by
  cases understood : heading registries world (textOf paragraph.head.1) with
  | error fault =>
      rw [errors_of_error understood, errors_of_error (alike.head.textOf ▸ understood)]
      exact .cons (errorAt_alike alike.head fault) .nil
  | ok header =>
      rw [errors_of_ok understood, errors_of_ok (alike.head.textOf ▸ understood),
        filterMap_effectIn?_alike alike.body]
      apply List.rel_append
      · rw [List.forall₂_map_left_iff, List.forall₂_map_right_iff]
        refine (List.rel_filter ?_ alike.body).imp fun _ _ => unknownEffect_alike
        intro line other alike
        exact iff_of_eq (congrArg (·.isNone = true) (effectIn?_alike alike header.event))
      · split
        · exact .cons (errorAt_alike alike.head _) .nil
        · exact .nil

/-- Lines that hold the same come to the same triggers. -/
theorem triggers_outlineOf_alike {lines others : List NumberedLine}
    (alike : List.Forall₂ (Alike related) lines others) :
    (outlineOf lines).triggers registries world script
      = (outlineOf others).triggers registries world script := by
  obtain ⟨-, paragraphs⟩ := outlineOf_alike alike
  rw [Outline.triggers, Outline.triggers]
  generalize (outlineOf lines).paragraphs = these, (outlineOf others).paragraphs = those at paragraphs
  induction paragraphs with
  | nil => rfl
  | cons here _ ih => rw [List.filterMap_cons, List.filterMap_cons, here.trigger?_eq, ih]

/-- Lines that hold the same come to the same errors, up to the numbers of the lines. -/
theorem errors_outlineOf_alike {lines others : List NumberedLine}
    (alike : List.Forall₂ (Alike related) lines others) :
    List.Forall₂ (ErrorsAlike related) ((outlineOf lines).errors registries world script)
      ((outlineOf others).errors registries world script) := by
  obtain ⟨leading, paragraphs⟩ := outlineOf_alike alike
  apply List.rel_append
  · rw [List.forall₂_map_left_iff, List.forall₂_map_right_iff]
    exact leading.imp fun _ _ alike => errorAt_alike alike .orphanEffect
  · apply List.rel_flatMap paragraphs
    intro paragraph other alike
    exact alike.errors

end Reading

end ScriptBridge.Script
