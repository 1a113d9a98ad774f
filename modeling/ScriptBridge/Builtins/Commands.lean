import ScriptBridge.Context
/-!
Effect commands: chat lines that begin with a token are run as effects. Such a line is cancelled before
anything is read, so that handlers after this one find it taken; a line that does nothing is answered to
the speaker.
-/

namespace ScriptBridge.Builtins

/-- What is left of a text behind its beginning. -/
def restAfter? : List Char → List Char → Option (List Char)
  | [], text => some text
  | _ :: _, [] => none
  | c :: beginning, d :: text => if c = d then restAfter? beginning text else none

theorem restAfter?_eq_some_iff (beginning text rest : List Char) :
    restAfter? beginning text = some rest ↔ text = beginning ++ rest := by
  induction beginning generalizing text with
  | nil => simp [restAfter?]
  | cons c beginning ih =>
    cases text with
    | nil => simp [restAfter?]
    | cons d text =>
      by_cases h : c = d
      · simp [restAfter?, h, ih]
      · simp [restAfter?, h, Ne.symm h]

/-- Chat lines that begin with the token are read with the registries and run. -/
structure EffectCommands where
  registries : Registries
  token : String

/-- What a chat line came to: whether it was a command, or why the command did nothing. -/
abbrev CommandResult := Except CommandError Bool

namespace EffectCommands

/-- The line behind the token, without the blanks around it. -/
def line? (commands : EffectCommands) (message : String) : Option String :=
  (restAfter? commands.token.toList message.toList).map fun rest => String.ofList (Text.trim rest)

/-- Where commands are read: on a command line, for a chat event. -/
def options : ParseOptions where
  context := .command
  event := some .playerChat

/-- Reads a line and performs its effect on a chat event. -/
def runLine (commands : EffectCommands) (line : String) (event : Event) (scene : Scene) :
    Turn Scene (Except CommandError Unit) :=
  let search := commands.registries.searchEffect scene.world line options
  let scene := scene.noteAll search.notices
  match search.effect? with
  | none => { cancelled := event.cancelled, state := scene, ending := .error (.unparsed line) }
  | some effect =>
    let turn := effect.perform event scene
    { cancelled := turn.cancelled
      state := turn.state
      ending := turn.ending.mapError (.failed effect.description) }

/-- Takes a chat event whose message may be a command. The line is cancelled first, and the speaker is
told if it fails. -/
def run (commands : EffectCommands) (event : Event) (scene : Scene) : Turn Scene CommandResult :=
  match event.occurrence with
  | .playerChat player message =>
    match commands.line? message with
    | none => { cancelled := event.cancelled, state := scene, ending := .ok false }
    | some line =>
      let turn := commands.runLine line (event.withCancelled true) scene
      match turn.ending with
      | .ok () => { turn with ending := .ok true }
      | .error error =>
        { turn with state := turn.state.tell player error.message, ending := .error error }
  | _ => { cancelled := event.cancelled, state := scene, ending := .ok false }

/-- Commands as a handler of chat events. -/
def handler (commands : EffectCommands) : Handler Scene :=
  Handler.only .playerChat fun event scene =>
    let turn := commands.run event scene
    { cancelled := turn.cancelled
      state := turn.state
      ending :=
        match turn.ending with
        | .ok _ => .done
        | .error error => .failed (.command error) }

/-- The handler runs before all others. -/
def handlerMeta : HandlerMeta where
  name := "effect commands"
  priority := .lowest

end EffectCommands

end ScriptBridge.Builtins
