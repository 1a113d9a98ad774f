import ScriptBridge.Pattern.Compile
/-!
The grammar of patterns, apart from any way to compile them. A sequence is literal text, slots and groups
one after the other; a group holds branches between brackets; and a branch is a sequence that may begin
with a tag. Each rule says which nodes its text stands for. Literal text stands for nodes only once it
ends, so a sequence is read behind a run of literal text, and slots are numbered from left to right, so
every rule goes from the number of its first slot to the number of the next one.
-/

namespace ScriptBridge

/-- The character that opens a group. -/
def Bracket.opening : Bracket → Char
  | .round => '('
  | .square => '['

namespace Syntax

/-- The characters that stand for themselves only behind a backslash. -/
def marks : List Char := ['\\', '(', ')', '[', ']', '|', '%']

/-- The literals that a run of literal text stands for. -/
def literalsOf (run : List Char) : List Node :=
  (Token.tokenize (String.ofList run)).map fun token => .literal token.patternLiteral

/-- Whether the character is a flag in front of the type name of a slot. -/
def isFlag (c : Char) : Bool :=
  c = '-' || c = '*'

/-- The type name in a slot: what follows the flags, without the blanks around it. -/
def nameIn (body : List Char) : List Char :=
  Text.trim (body.dropWhile isFlag)

/-- The slot that the text between two percent signs stands for. -/
def slotOf (number : Nat) (body : List Char) : Slot where
  index := number
  typeName := Text.lowercase (String.ofList (nameIn body))
  noDefault := (body.takeWhile isFlag).contains '-'
  literalOnly := (body.takeWhile isFlag).contains '*'

/-- The text begins with a tag: word characters, and a colon behind the last of them. -/
def BeginsTagged (text : List Char) : Prop :=
  ∃ word rest, word ≠ [] ∧ (∀ c ∈ word, Text.isWordChar c = true) ∧ text = word ++ ':' :: rest

end Syntax

/-- The node that a group stands for: one of its branches between round brackets, a branch that may be
left out between square ones. Several branches that may be left out are one choice that may be. -/
inductive GroupStands : Bracket → List Branch → Node → Prop where
  | choice {branches : List Branch} : GroupStands .round branches (.choice branches)
  | optional {branch : Branch} : GroupStands .square [branch] (.optional branch)
  | optionalChoice {first second : Branch} {others : List Branch} :
      GroupStands .square (first :: second :: others)
        (.optional (.mk none [.choice (first :: second :: others)]))

open Syntax

mutual

/-- Behind a run of literal text, with the slots numbered from the first number on and the next slot to
have the last one, a text stands for these nodes. -/
inductive SequenceReads : Nat → List Char → List Char → List Node → Nat → Prop where
  | done {number : Nat} {run : List Char} : SequenceReads number run [] (literalsOf run) number
  | plain {number next : Nat} {run text : List Char} {nodes : List Node} {c : Char}
      (ordinary : c ∉ marks) (rest : SequenceReads number (run ++ [c]) text nodes next) :
      SequenceReads number run (c :: text) nodes next
  | escapedLetter {number next : Nat} {run text : List Char} {nodes : List Node} {c : Char}
      (letter : Text.isAlphanumeric c = true)
      (rest : SequenceReads number (run ++ [c]) text nodes next) :
      SequenceReads number run ('\\' :: c :: text) nodes next
  | escapedMark {number next : Nat} {run text : List Char} {nodes : List Node} {c : Char}
      (mark : Text.isAlphanumeric c = false) (rest : SequenceReads number [] text nodes next) :
      SequenceReads number run ('\\' :: c :: text)
        (literalsOf run ++ .literal c.toString :: nodes) next
  | slot {number next : Nat} {run body text : List Char} {nodes : List Node}
      (closed : '%' ∉ body) (named : nameIn body ≠ [])
      (rest : SequenceReads (number + 1) [] text nodes next) :
      SequenceReads number run ('%' :: body ++ '%' :: text)
        (literalsOf run ++ .slot (slotOf number body) :: nodes) next
  | group {number middle next : Nat} {run inside text : List Char} {bracket : Bracket}
      {branches : List Branch} {node : Node} {nodes : List Node}
      (holds : BranchesRead number inside branches middle)
      (stands : GroupStands bracket branches node) (rest : SequenceReads middle [] text nodes next) :
      SequenceReads number run (bracket.opening :: inside ++ bracket.closing :: text)
        (literalsOf run ++ node :: nodes) next

/-- A text stands for this branch. What can be read as a tag is one. -/
inductive BranchReads : Nat → List Char → Branch → Nat → Prop where
  | tagged {number next : Nat} {word text : List Char} {nodes : List Node} (nonempty : word ≠ [])
      (letters : ∀ c ∈ word, Text.isWordChar c = true)
      (rest : SequenceReads number [] text nodes next) :
      BranchReads number (word ++ ':' :: text)
        (.mk (some (Text.lowercase (String.ofList word))) nodes) next
  | untagged {number next : Nat} {text : List Char} {nodes : List Node}
      (plain : ¬ BeginsTagged text) (reads : SequenceReads number [] text nodes next) :
      BranchReads number text (.mk none nodes) next

/-- A text stands for these branches, with a bar between every two of them. -/
inductive BranchesRead : Nat → List Char → List Branch → Nat → Prop where
  | last {number next : Nat} {text : List Char} {branch : Branch}
      (reads : BranchReads number text branch next) : BranchesRead number text [branch] next
  | more {number middle next : Nat} {text others : List Char} {branch : Branch}
      {branches : List Branch} (reads : BranchReads number text branch middle)
      (rest : BranchesRead middle others branches next) :
      BranchesRead number (text ++ '|' :: others) (branch :: branches) next

end

/-- A group stands for the node that its bracket makes of the branches. -/
theorem groupStands_iff {bracket : Bracket} {branches : List Branch} {node : Node}
    (nonempty : branches ≠ []) :
    GroupStands bracket branches node ↔ node = bracket.toNode branches := by
  constructor
  · intro stands
    cases stands <;> rfl
  · rintro rfl
    match bracket, branches with
    | .round, _ => exact .choice
    | .square, [_] => exact .optional
    | .square, _ :: _ :: _ => exact .optionalChoice

theorem BranchesRead.ne_nil {number next : Nat} {text : List Char} {branches : List Branch}
    (reads : BranchesRead number text branches next) : branches ≠ [] := by
  cases reads <;> exact List.cons_ne_nil _ _

/-! ### Numbers of slots -/

theorem slotsOfNodes_append (nodes others : List Node) :
    slotsOfNodes (nodes ++ others) = slotsOfNodes nodes ++ slotsOfNodes others := by
  induction nodes with
  | nil => rfl
  | cons node rest ih => rw [List.cons_append, slotsOfNodes, slotsOfNodes, ih, List.append_assoc]

theorem Syntax.slots_literalsOf (run : List Char) : slotsOfNodes (literalsOf run) = [] := by
  unfold literalsOf
  induction Token.tokenize (String.ofList run) with
  | nil => rfl
  | cons token rest ih => exact ih

theorem GroupStands.slots {bracket : Bracket} {branches : List Branch} {node : Node}
    (stands : GroupStands bracket branches node) : node.slots = slotsOfBranches branches := by
  cases stands with
  | choice => rfl
  | optional => exact (List.append_nil _).symm
  | optionalChoice => exact List.append_nil _

/-- The slots are numbered in their order from one number up to the next. -/
def Numbers (slots : List Slot) (number next : Nat) : Prop :=
  next = number + slots.length ∧ slots.map Slot.index = List.range' number slots.length

theorem Numbers.nil (number : Nat) : Numbers [] number number := ⟨rfl, rfl⟩

theorem Numbers.slotOf (number : Nat) (body : List Char) :
    Numbers [Syntax.slotOf number body] number (number + 1) := ⟨rfl, rfl⟩

theorem Numbers.append {slots others : List Slot} {number middle next : Nat}
    (first : Numbers slots number middle) (second : Numbers others middle next) :
    Numbers (slots ++ others) number next := by
  obtain ⟨rfl, here⟩ := first
  obtain ⟨rfl, there⟩ := second
  refine ⟨by rw [List.length_append, Nat.add_assoc], ?_⟩
  rw [List.map_append, here, there, List.length_append, List.range'_append_1]

mutual

/-- The slots of a sequence are numbered from left to right, and none is left out. -/
theorem SequenceReads.numbers : ∀ {number next : Nat} {run text : List Char} {nodes : List Node},
    SequenceReads number run text nodes next → Numbers (slotsOfNodes nodes) number next
  | number, _, run, _, _, .done => by
      rw [slots_literalsOf]
      exact .nil number
  | _, _, _, _, _, .plain _ rest => rest.numbers
  | _, _, _, _, _, .escapedLetter _ rest => rest.numbers
  | _, _, run, _, _, .escapedMark _ rest => by
      rw [slotsOfNodes_append, slots_literalsOf]
      exact rest.numbers
  | number, _, run, _, _, .slot _ _ rest => by
      rw [slotsOfNodes_append, slots_literalsOf]
      exact (Numbers.slotOf number _).append rest.numbers
  | _, _, run, _, _, .group holds stands rest => by
      rw [slotsOfNodes_append, slots_literalsOf, List.nil_append, slotsOfNodes, stands.slots]
      exact holds.numbers.append rest.numbers

theorem BranchReads.numbers : ∀ {number next : Nat} {text : List Char} {branch : Branch},
    BranchReads number text branch next → Numbers branch.slots number next
  | _, _, _, _, .tagged _ _ rest => rest.numbers
  | _, _, _, _, .untagged _ reads => reads.numbers

theorem BranchesRead.numbers : ∀ {number next : Nat} {text : List Char} {branches : List Branch},
    BranchesRead number text branches next → Numbers (slotsOfBranches branches) number next
  | _, _, _, _, .last reads => by
      rw [slotsOfBranches, slotsOfBranches, List.append_nil]
      exact reads.numbers
  | _, _, _, _, .more reads rest => reads.numbers.append rest.numbers

end

end ScriptBridge
