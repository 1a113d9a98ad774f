import ScriptBridge.Parsing.Session
/-!
Reading whole lines: as an effect, as an expression of a type, or as the header of an event. Entries
are tried in the order of their registration and the patterns of an entry in turn; the first match
that its entry accepts wins.
-/

namespace ScriptBridge

namespace Parsing

/-- A match that was offered to an effect's entry, with what the entry made of it. -/
structure Attempt where
  entry : EffectEntry
  found : Match
  effect : Option Effect

/-- What a watched entry's attempt leaves in the journal. -/
def Attempt.notices (attempt : Attempt) : List Notice :=
  if attempt.entry.watched then
    [.attempt attempt.entry.name attempt.found attempt.effect.isSome]
  else []

/-- The patterns of effects with their entries and numbers, in the order in which they are tried. -/
def effectCandidates (effects : List EffectEntry) : List (EffectEntry × Nat × Pattern) :=
  effects.flatMap fun entry =>
    entry.patterns.zipIdx.map fun (pattern, number) => (entry, number, pattern)

/-- The attempts up to the first one that makes an effect. -/
def attempts (session : Session) : List (EffectEntry × Nat × Pattern) → List Attempt
  | [] => []
  | (entry, number, pattern) :: rest =>
    match session.match? number pattern with
    | none => attempts session rest
    | some found =>
      match entry.factory found with
      | some effect => [⟨entry, found, some effect⟩]
      | none => ⟨entry, found, none⟩ :: attempts session rest

end Parsing

open Parsing

/-- The outcome of reading a line as an effect: the attempts in order, of which only the last one can
have made an effect. -/
structure EffectSearch where
  attempts : List Attempt

/-- The effect that the line stands for. -/
def EffectSearch.effect? (search : EffectSearch) : Option Effect :=
  search.attempts.getLast?.bind Attempt.effect

/-- What the search leaves in the journal. -/
def EffectSearch.notices (search : EffectSearch) : List Notice :=
  search.attempts.flatMap Attempt.notices

/-- An event header that was understood: the type of the event, the name it is registered under, and
the match. -/
structure EventMatch where
  event : TypeKey
  name : String
  found : Match

namespace Registries

/-- Reads a line as an effect. -/
def searchEffect (registries : Registries) (world : World) (text : String) (options : ParseOptions) :
    EffectSearch :=
  let session := Session.ofText registries world options text
  ⟨attempts session (effectCandidates registries.grammar.effects)⟩

/-- Reads a text as an expression whose values can stand where a type is asked for. -/
def parseExpression (registries : Registries) (world : World) (text : String) (target : TypeKey)
    (options : ParseOptions) : Option Expression :=
  (Session.ofText registries world options text).expression? target

/-- Reads a text as the header of an event. -/
def parseEvent (registries : Registries) (world : World) (text : String) : Option EventMatch :=
  let session := Session.ofText registries world { context := .event } text
  registries.wrappers.entries.findSome? fun entry =>
    (entry.patterns.zipIdx.findSome? fun (pattern, number) => session.match? number pattern).map
      fun found => { event := entry.wrapper, name := entry.name, found }

end Registries

end ScriptBridge
