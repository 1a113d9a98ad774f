import ScriptBridge.Script.Line
import ScriptBridge.Script.Trigger
/-!
Reading scripts. A header `on <event>:` opens a block, and the indented lines below it are its effects.
A line that cannot be read is reported under its number and left out; below a header that cannot be read
the block is passed over in silence. A block becomes a trigger when it ends with at least one effect.
-/

namespace ScriptBridge

namespace Script

/-- A block that is being read: its header, the number of that line, and the effects so far. -/
structure OpenTrigger where
  header : EventMatch
  line : Nat
  effects : List Effect := []

/-- Where the next line stands. -/
inductive Block where
  | outside
  | skipped
  | trigger (opened : OpenTrigger)

/-- A reading under way: the block, the triggers and errors so far, and what goes to the journal. -/
structure Reading where
  block : Block := .outside
  triggers : List Trigger := []
  errors : List ScriptError := []
  notices : List Notice := []

namespace Reading

/-- Reports a line. -/
def report (reading : Reading) (script : String) (line : Nat) (fault : ScriptFault) : Reading :=
  let error : ScriptError := { script, line, fault }
  { reading with
    errors := reading.errors ++ [error]
    notices := reading.notices ++ [.warning (.lineSkipped error)] }

/-- Ends the block: a trigger without effects is reported under its header. -/
def closeBlock (reading : Reading) (script : String) : Reading :=
  let closed := { reading with block := .outside }
  match reading.block with
  | .outside => closed
  | .skipped => closed
  | .trigger opened =>
    if opened.effects.isEmpty then
      closed.report script opened.line (.emptyTrigger opened.header.name)
    else
      let trigger : Trigger :=
        { event := opened.header.event
          name := script ++ ": on " ++ opened.header.name
          effects := opened.effects }
      { closed with triggers := closed.triggers ++ [trigger] }

/-- Reads an effect into a block. -/
def addEffect (registries : Registries) (world : World) (script : String) (line : Nat) (text : String)
    (opened : OpenTrigger) (reading : Reading) : Reading :=
  let search :=
    registries.searchEffect world text { context := .script, event := some opened.header.event }
  let reading := { reading with notices := reading.notices ++ search.notices }
  match search.effect? with
  | some effect =>
    { reading with block := .trigger { opened with effects := opened.effects ++ [effect] } }
  | none => reading.report script line (.unknownEffect text)

/-- Reads an indented line. -/
def readIndented (registries : Registries) (world : World) (script : String) (line : Nat)
    (text : String) (reading : Reading) : Reading :=
  match reading.block with
  | .outside => reading.report script line .orphanEffect
  | .skipped => reading
  | .trigger opened => reading.addEffect registries world script line text opened

/-- Reads a line without indentation, which ends the block before it. -/
def readPlain (registries : Registries) (world : World) (script : String) (line : Nat) (text : String)
    (reading : Reading) : Reading :=
  let reading := reading.closeBlock script
  match headerEvent? text with
  | none => { reading.report script line (.notATrigger text) with block := .skipped }
  | some event =>
    match registries.parseEvent world event with
    | none => { reading.report script line (.unknownEvent event) with block := .skipped }
    | some header => { reading with block := .trigger { header, line } }

/-- Reads the line with the given number. -/
def readLine (registries : Registries) (world : World) (script : String) (reading : Reading)
    (numbered : List Char × Nat) : Reading :=
  match contentOf numbered.1 with
  | .blank => reading
  | .indented text => reading.readIndented registries world script numbered.2 text
  | .plain text => reading.readPlain registries world script numbered.2 text

/-- Reads lines that are numbered from the given number on. -/
def readLines (registries : Registries) (world : World) (script : String) (first : Nat)
    (lines : List (List Char)) (reading : Reading) : Reading :=
  (lines.zipIdx first).foldl (readLine registries world script) reading

end Reading

end Script

/-- What became of a script: its triggers, and the lines that were left out. -/
structure LoadedScript where
  name : String
  triggers : List Trigger
  errors : List ScriptError

/-- Whether every line of the script was read. -/
def LoadedScript.isClean (script : LoadedScript) : Bool :=
  script.errors.isEmpty

namespace Registries

/-- Reads a whole script. -/
def readScript (registries : Registries) (world : World) (name source : String) : Script.Reading :=
  (Script.Reading.readLines registries world name 1 (Script.lines source) {}).closeBlock name

end Registries

/-- A script that was loaded into a context. -/
structure ScriptLoading where
  context : SealedContext
  script : LoadedScript
  scene : Scene

/-- Reads a script and registers its triggers. -/
def SealedContext.loadScript (context : SealedContext) (scene : Scene) (name source : String) :
    ScriptLoading :=
  let reading := context.registries.readScript scene.world name source
  { context := context.addTriggers reading.triggers
    script := { name, triggers := reading.triggers, errors := reading.errors }
    scene := scene.noteAll reading.notices }

end ScriptBridge
