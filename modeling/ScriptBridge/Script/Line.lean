import ScriptBridge.Text.Blank
import ScriptBridge.Text.Case
/-!
The lines of a script. A comment runs from a number sign outside of quotes to the end of its line. What
then stands in a line without indentation is a header, and what is indented is an effect.
-/

namespace ScriptBridge.Script

/-- A line without the carriage return in front of its line feed. -/
def dropReturn (line : List Char) : List Char :=
  if line.getLast? = some '\r' then line.dropLast else line

/-- The lines of a text behind the characters of the current line, which are given last to first. A
last line without a line feed counts if there is anything in it, and then as it is. -/
def linesFrom (current : List Char) : List Char → List (List Char)
  | [] => if current.isEmpty then [] else [current.reverse]
  | '\n' :: rest => dropReturn current.reverse :: linesFrom [] rest
  | c :: rest => linesFrom (c :: current) rest

/-- The lines of a text. -/
def lines (source : String) : List (List Char) :=
  linesFrom [] source.toList

/-- The part of a line in front of its comment; `quoted` says that a quote is open. -/
def stripCommentFrom (quoted : Bool) : List Char → List Char
  | [] => []
  | c :: rest =>
    if c = '"' then c :: stripCommentFrom (!quoted) rest
    else if c = '#' && !quoted then []
    else c :: stripCommentFrom quoted rest

/-- The part of a line in front of its comment. -/
def stripComment (line : List Char) : List Char :=
  stripCommentFrom false line

/-- What a line holds. -/
inductive Content where
  | blank
  | indented (text : String)
  | plain (text : String)
deriving DecidableEq, Repr

/-- What stands in a line in front of its comment. -/
def contentOf (line : List Char) : Content :=
  let visible := stripComment line
  let text := Text.trim visible
  if text.isEmpty then .blank
  else if visible.head?.any Text.isBlank then .indented (String.ofList text)
  else .plain (String.ofList text)

/-- The words behind `on`, or all of them if they do not begin with it. -/
def dropOn (header : List Char) : List Char :=
  let word := header.takeWhile (!Text.isBlank ·)
  let rest := header.dropWhile (!Text.isBlank ·)
  if !rest.isEmpty && Text.sameIgnoringCase (String.ofList word) "on" then Text.trimStart rest
  else header

/-- The name of the event in a header, which must end in a colon. -/
def headerEvent? (text : String) : Option String :=
  let cs := text.toList
  if cs.getLast? = some ':' then some (String.ofList (dropOn (Text.trim cs.dropLast))) else none

example : stripComment "message \"#1\" # note".toList = "message \"#1\" ".toList := by decide

example : headerEvent? "ON  chat :" = some "chat" := by decide +kernel

end ScriptBridge.Script
