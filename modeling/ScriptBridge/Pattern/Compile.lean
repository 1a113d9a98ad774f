import ScriptBridge.Pattern.Basic
import ScriptBridge.Token.Basic
/-!
Compiling patterns. The text of a pattern is read one character at a time:

* `(a|b)` is a choice, `[a]` and `[a|b]` are optional groups, and groups nest;
* `%type%` is a slot, where `%-type%` has no default and `%*type%` takes literals only;
* `word:` at the start of a branch of a group is the branch's tag;
* `\c` is the character `c` itself;
* all else is literal text, which is split into tokens in lower case.

`Compiler.step` takes one character, and `Compiler.finish` is the end of the text. The groups that
are still open are kept on a stack, innermost first.
-/

namespace ScriptBridge

/-- The brackets of a group. -/
inductive Bracket where
  | round
  | square
deriving DecidableEq, Repr

/-- The character that closes a group. -/
def Bracket.closing : Bracket → Char
  | .round => ')'
  | .square => ']'

/-- A branch under construction: its nodes and literal text so far, latest first. While it is `fresh`,
what was read of it is a run of word characters that may yet turn out to be its tag. -/
structure Draft where
  tag : Option String := none
  nodes : List Node := []
  literal : List Char := []
  fresh : Bool := false

/-- A group under construction: the branches that are complete, latest first, and the branch in which
the group stands. -/
structure OpenGroup where
  bracket : Bracket
  branches : List Branch
  outer : Draft

/-- What the next character means: pattern text, an escaped character, or the inside of a slot, whose
name so far is held latest first. -/
inductive CompilerMode where
  | plain
  | escaped
  | slot (noDefault literalOnly : Bool) (name : List Char)

/-- A pattern under construction. -/
structure Compiler where
  draft : Draft := {}
  groups : List OpenGroup := []
  mode : CompilerMode := .plain
  slotCount : Nat := 0

/-- The literal that a token of a pattern stands for. -/
def Token.patternLiteral (token : Token) : String :=
  match token.kind with
  | .quoted => "\"" ++ token.text ++ "\""
  | _ => Text.lowercase token.text

namespace Draft

/-- Splits the pending literal text into nodes. -/
def flush (draft : Draft) : Draft :=
  let literals := (Token.tokenize (String.ofList draft.literal.reverse)).map fun token =>
    Node.literal token.patternLiteral
  { draft with nodes := literals.reverse ++ draft.nodes, literal := [], fresh := false }

/-- Appends a node. -/
def push (draft : Draft) (node : Node) : Draft :=
  { draft with nodes := node :: draft.nodes, fresh := false }

/-- The finished branch. -/
def toBranch (draft : Draft) : Branch :=
  .mk draft.tag draft.flush.nodes.reverse

end Draft

/-- The node that a finished group makes. Several branches in square brackets are one branch that
holds a choice. -/
def Bracket.toNode (bracket : Bracket) (branches : List Branch) : Node :=
  match bracket, branches with
  | .round, _ => .choice branches
  | .square, [branch] => .optional branch
  | .square, _ => .optional (.mk none [.choice branches])

namespace Compiler

/-- Opens a group behind the pending literal text. -/
def openGroup (compiler : Compiler) (bracket : Bracket) : Compiler :=
  { compiler with
    draft := { fresh := true }
    groups := ⟨bracket, [], compiler.draft.flush⟩ :: compiler.groups }

/-- Closes the innermost group if the character is its closing bracket. -/
def closeGroup (compiler : Compiler) (mark : Char) : Except PatternFault Compiler :=
  match compiler.groups with
  | [] => .error (.unbalanced mark)
  | group :: groups =>
    if group.bracket.closing = mark then
      let branches := (compiler.draft.toBranch :: group.branches).reverse
      .ok { compiler with draft := group.outer.push (group.bracket.toNode branches), groups }
    else .error (.unbalanced mark)

/-- Begins the next branch of the innermost group. -/
def nextBranch (compiler : Compiler) : Except PatternFault Compiler :=
  match compiler.groups with
  | [] => .error (.unbalanced '|')
  | group :: groups =>
    .ok { compiler with
      draft := { fresh := true }
      groups := { group with branches := compiler.draft.toBranch :: group.branches } :: groups }

/-- Takes a character as literal text. -/
def literal (compiler : Compiler) (c : Char) : Compiler :=
  { compiler with
    draft :=
      { compiler.draft with
        literal := c :: compiler.draft.literal
        fresh := compiler.draft.fresh && Text.isWordChar c } }

/-- Takes what was read of the branch so far as its tag. -/
def takeTag (compiler : Compiler) : Compiler :=
  { compiler with
    draft :=
      { compiler.draft with
        tag := some (Text.lowercase (String.ofList compiler.draft.literal.reverse))
        literal := []
        fresh := false } }

/-- Takes a character behind a backslash. Letters and digits join the literal text around them; any
other character is a literal of its own. -/
def escaped (compiler : Compiler) (c : Char) : Compiler :=
  if Text.isAlphanumeric c then
    { compiler with
      mode := .plain
      draft :=
        { compiler.draft with literal := c :: compiler.draft.literal, fresh := false } }
  else
    { compiler with mode := .plain, draft := compiler.draft.flush.push (.literal c.toString) }

/-- Takes the closing mark of a slot. -/
def closeSlot (compiler : Compiler) (noDefault literalOnly : Bool) (name : List Char) :
    Except PatternFault Compiler :=
  let typeName := Text.lowercase (String.ofList (Text.trim name.reverse))
  if typeName.isEmpty then .error .untypedSlot
  else
    let slot : Slot := { index := compiler.slotCount, typeName, noDefault, literalOnly }
    .ok { compiler with
      mode := .plain
      draft := compiler.draft.push (.slot slot)
      slotCount := compiler.slotCount + 1 }

/-- Takes one character of the text. -/
def step (compiler : Compiler) (c : Char) : Except PatternFault Compiler :=
  match compiler.mode with
  | .escaped => .ok (compiler.escaped c)
  | .slot noDefault literalOnly name =>
    if c = '%' then compiler.closeSlot noDefault literalOnly name
    else if c = '-' && name.isEmpty then .ok { compiler with mode := .slot true literalOnly name }
    else if c = '*' && name.isEmpty then .ok { compiler with mode := .slot noDefault true name }
    else .ok { compiler with mode := .slot noDefault literalOnly (c :: name) }
  | .plain =>
    if c = '\\' then
      .ok { compiler with mode := .escaped, draft := { compiler.draft with fresh := false } }
    else if c = '(' then .ok (compiler.openGroup .round)
    else if c = '[' then .ok (compiler.openGroup .square)
    else if c = '%' then
      .ok { compiler with mode := .slot false false [], draft := compiler.draft.flush }
    else if c = ')' || c = ']' then compiler.closeGroup c
    else if c = '|' then compiler.nextBranch
    else if c = ':' && compiler.draft.fresh && !compiler.draft.literal.isEmpty then
      .ok compiler.takeTag
    else .ok (compiler.literal c)

/-- The end of the text: the nodes of the pattern. -/
def finish (compiler : Compiler) : Except PatternFault (List Node) :=
  match compiler.mode, compiler.groups with
  | .escaped, _ => .error .danglingEscape
  | .slot .., _ => .error .unterminatedSlot
  | .plain, group :: _ => .error (.missing group.bracket.closing)
  | .plain, [] =>
    let nodes := compiler.draft.flush.nodes.reverse
    if nodes.isEmpty then .error .empty else .ok nodes

/-- Takes the characters of a text one after the other. -/
def run (compiler : Compiler) : List Char → Except PatternFault Compiler
  | [] => .ok compiler
  | c :: rest =>
    match compiler.step c with
    | .error fault => .error fault
    | .ok next => next.run rest

end Compiler

/-- Compiles the text of a pattern. -/
def Pattern.compile (source : String) : Except RegistrationError Pattern :=
  match Compiler.run {} source.toList with
  | .error fault => .error (.invalidPattern source fault)
  | .ok compiler =>
    match compiler.finish with
    | .error fault => .error (.invalidPattern source fault)
    | .ok nodes => .ok { source, nodes, slotCount := compiler.slotCount }

/-- Compiles the patterns of an entry in order. -/
def compilePatterns : List String → Except RegistrationError (List Pattern)
  | [] => .ok []
  | source :: rest => do
    let pattern ← Pattern.compile source
    let rest ← compilePatterns rest
    pure (pattern :: rest)

end ScriptBridge
