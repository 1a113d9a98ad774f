import Mathlib.Data.List.Forall2
import ScriptBridge.Script.Line
/-!
Scripts as paragraphs. The lines of a script that hold anything fall into those above the first line without
indentation and into paragraphs, each a line without indentation with the indented lines below it. There is
one way only to see them so, and it depends on nothing but what the lines hold.
-/

namespace ScriptBridge.Script

/-- A line with its number. -/
abbrev NumberedLine := List Char × Nat

/-- The lines of a script, which count from one. -/
def numbered (source : String) : List NumberedLine :=
  (lines source).zipIdx 1

/-- The text that stands in a line. -/
def Content.text : Content → String
  | .blank => ""
  | .indented text => text
  | .plain text => text

/-- The text in a line, without its comment and the blanks around it. -/
def textOf (line : List Char) : String :=
  (contentOf line).text

theorem textOf_of_indented {line : List Char} {text : String}
    (holds : contentOf line = .indented text) : text = textOf line := by
  rw [textOf, holds, Content.text]

theorem textOf_of_plain {line : List Char} {text : String} (holds : contentOf line = .plain text) :
    text = textOf line := by
  rw [textOf, holds, Content.text]

/-- A line without indentation and the indented lines below it. -/
structure Paragraph where
  head : NumberedLine
  body : List NumberedLine

/-- The lines of a script that hold anything: those above the first line without indentation, and the
paragraphs. -/
structure Outline where
  leading : List NumberedLine := []
  paragraphs : List Paragraph := []

/-- The lines of a paragraph. -/
def Paragraph.lines (paragraph : Paragraph) : List NumberedLine :=
  paragraph.head :: paragraph.body

/-- The lines of an outline. -/
def Outline.lines (outline : Outline) : List NumberedLine :=
  outline.leading ++ outline.paragraphs.flatMap Paragraph.lines

/-- The outline of a script. -/
def outlineOf : List NumberedLine → Outline
  | [] => {}
  | line :: rest =>
    let below := outlineOf rest
    match contentOf line.1 with
    | .blank => below
    | .indented _ => { below with leading := line :: below.leading }
    | .plain _ => { paragraphs := ⟨line, below.leading⟩ :: below.paragraphs }

/-- An outline whose headers stand without indentation, and all other lines with it. -/
structure Outline.WellFormed (outline : Outline) : Prop where
  leading : ∀ line ∈ outline.leading, contentOf line.1 = .indented (textOf line.1)
  heads : ∀ paragraph ∈ outline.paragraphs,
    contentOf paragraph.head.1 = .plain (textOf paragraph.head.1)
  bodies : ∀ paragraph ∈ outline.paragraphs, ∀ line ∈ paragraph.body,
    contentOf line.1 = .indented (textOf line.1)

theorem outlineOf_wellFormed (lines : List NumberedLine) : (outlineOf lines).WellFormed := by
  induction lines with
  | nil => exact ⟨by simp [outlineOf], by simp [outlineOf], by simp [outlineOf]⟩
  | cons line rest ih =>
      rw [outlineOf]
      split
      · exact ih
      · next text holds =>
          rw [textOf_of_indented holds] at holds
          exact ⟨List.forall_mem_cons.2 ⟨holds, ih.leading⟩, ih.heads, ih.bodies⟩
      · next text holds =>
          rw [textOf_of_plain holds] at holds
          exact ⟨by simp, List.forall_mem_cons.2 ⟨holds, ih.heads⟩,
            List.forall_mem_cons.2 ⟨ih.leading, ih.bodies⟩⟩

/-- No line that holds anything is lost. -/
theorem lines_outlineOf (lines : List NumberedLine) :
    (outlineOf lines).lines = lines.filter (contentOf ·.1 ≠ .blank) := by
  induction lines with
  | nil => rfl
  | cons line rest ih =>
      rw [outlineOf, List.filter_cons]
      split
      · next blank => simpa [blank] using ih
      · next text holds => simpa [holds, Outline.lines] using ih
      · next text holds => simpa [holds, Outline.lines, Paragraph.lines] using ih

theorem outlineOf_append_of_indented {body : List NumberedLine} (rest : List NumberedLine)
    (indented : ∀ line ∈ body, contentOf line.1 = .indented (textOf line.1)) :
    outlineOf (body ++ rest)
      = { outlineOf rest with leading := body ++ (outlineOf rest).leading } := by
  induction body with
  | nil => rfl
  | cons line body ih =>
      obtain ⟨here, later⟩ := List.forall_mem_cons.1 indented
      rw [List.cons_append, outlineOf, here, ih later]
      rfl

/-- There is no other outline of the same lines. -/
theorem outlineOf_lines {outline : Outline} (wellFormed : outline.WellFormed) :
    outlineOf outline.lines = outline := by
  obtain ⟨leading, paragraphs⟩ := outline
  obtain ⟨indented, heads, bodies⟩ := wellFormed
  rw [Outline.lines, outlineOf_append_of_indented _ indented]
  have below : outlineOf (paragraphs.flatMap Paragraph.lines) = { paragraphs } := by
    clear indented
    induction paragraphs with
    | nil => rfl
    | cons paragraph rest ih =>
        obtain ⟨plain, heads⟩ := List.forall_mem_cons.1 heads
        obtain ⟨inside, bodies⟩ := List.forall_mem_cons.1 bodies
        rw [List.flatMap_cons, Paragraph.lines, List.cons_append, outlineOf,
          outlineOf_append_of_indented _ inside, ih heads bodies]
        simp only [plain, List.append_nil]
  rw [below, List.append_nil]

/-! ### Lines that hold the same -/

variable {related : Nat → Nat → Prop}

/-- Lines that hold the same and have related numbers. -/
def Alike (related : Nat → Nat → Prop) (line other : NumberedLine) : Prop :=
  contentOf line.1 = contentOf other.1 ∧ related line.2 other.2

theorem Alike.textOf {line other : NumberedLine} (alike : Alike related line other) :
    Script.textOf line.1 = Script.textOf other.1 :=
  congrArg Content.text alike.1

/-- Paragraphs whose lines hold the same one by one. -/
structure Paragraph.Alike (related : Nat → Nat → Prop) (paragraph other : Paragraph) : Prop where
  head : Script.Alike related paragraph.head other.head
  body : List.Forall₂ (Script.Alike related) paragraph.body other.body

/-- Lines that hold the same have outlines that hold the same. -/
theorem outlineOf_alike {lines others : List NumberedLine}
    (alike : List.Forall₂ (Alike related) lines others) :
    List.Forall₂ (Alike related) (outlineOf lines).leading (outlineOf others).leading
      ∧ List.Forall₂ (Paragraph.Alike related) (outlineOf lines).paragraphs
          (outlineOf others).paragraphs := by
  induction alike with
  | nil => exact ⟨.nil, .nil⟩
  | @cons line other rest others here later ih =>
      rw [outlineOf, outlineOf, ← here.1]
      cases contentOf line.1 with
      | blank => exact ih
      | indented text => exact ⟨.cons here ih.1, ih.2⟩
      | plain text => exact ⟨.nil, .cons ⟨here, ih.1⟩ ih.2⟩

end ScriptBridge.Script
