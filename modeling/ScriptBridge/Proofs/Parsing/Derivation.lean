import ScriptBridge.Parsing.Session
/-!
Derivations of a pattern over tokens, apart from any way to find them. A derivation goes through the
pattern from left to right and is written down as the list of its decisions: which branch of a choice it
enters, whether it takes or skips an optional group, and which window it reads as the value of a slot.
Derivations are compared decision by decision, and the first difference tells which one is preferred.
-/

namespace ScriptBridge.Parsing

/-- A decision on the way through a pattern. -/
inductive Decision where
  | branch (number : Nat) (tag : Option String)
  | take (tag : Option String)
  | skip (slots : List Slot)
  | read (slot : Slot) (start stop : Nat) (expression : Expression)

/-- What a decision adds to the bindings of the decisions after it. -/
def Decision.apply : Decision → Bindings → Bindings
  | .branch _ tag, bindings => bindings.enter tag
  | .take tag, bindings => bindings.enter tag
  | .skip slots, bindings => bindings.skip slots
  | .read slot _ _ expression, bindings => bindings.bind slot expression

/-- What a derivation binds, tags and skips. -/
def bindingsOf (way : List Decision) : Bindings :=
  way.foldr Decision.apply {}

mutual

/-- A node consumes the tokens from `start` up to `stop` by these decisions. -/
inductive NodeDerives (read : SlotReader) (tokens : List Token) :
    Node → Nat → List Decision → Nat → Prop where
  | literal {text : String} {start : Nat} {token : Token}
      (present : tokens[start]? = some token) (fits : token.isLiteral text = true) :
      NodeDerives read tokens (.literal text) start [] (start + 1)
  | choice {branches : List Branch} {number start stop : Nat} {branch : Branch}
      {inside : List Decision} (chosen : branches[number]? = some branch)
      (derives : NodesDerive read tokens branch.nodes start inside stop) :
      NodeDerives read tokens (.choice branches) start
        (.branch number branch.tag :: inside) stop
  | taken {branch : Branch} {start stop : Nat} {inside : List Decision}
      (derives : NodesDerive read tokens branch.nodes start inside stop) :
      NodeDerives read tokens (.optional branch) start (.take branch.tag :: inside) stop
  | skipped {branch : Branch} {start : Nat} :
      NodeDerives read tokens (.optional branch) start [.skip branch.slots] start
  | slot {slot : Slot} {start stop : Nat} {expression : Expression} (nonempty : start < stop)
      (within : stop ≤ tokens.length) (value : read slot start stop = some expression) :
      NodeDerives read tokens (.slot slot) start [.read slot start stop expression] stop

/-- A sequence of nodes consumes the tokens from `start` up to `stop` by these decisions. -/
inductive NodesDerive (read : SlotReader) (tokens : List Token) :
    List Node → Nat → List Decision → Nat → Prop where
  | nil {start : Nat} : NodesDerive read tokens [] start [] start
  | cons {node : Node} {nodes : List Node} {start middle stop : Nat} {head tail : List Decision}
      (first : NodeDerives read tokens node start head middle)
      (rest : NodesDerive read tokens nodes middle tail stop) :
      NodesDerive read tokens (node :: nodes) start (head ++ tail) stop

end

/-- Of two decisions at one place, the one that is preferred: an earlier branch, taking a group over
skipping it, a shorter window. -/
inductive Preferred : Decision → Decision → Prop where
  | branch {number later : Nat} {tag laterTag : Option String} (earlier : number < later) :
      Preferred (.branch number tag) (.branch later laterTag)
  | take {tag : Option String} {slots : List Slot} : Preferred (.take tag) (.skip slots)
  | read {slot : Slot} {start stop longer : Nat} {expression other : Expression}
      (shorter : stop < longer) :
      Preferred (.read slot start stop expression) (.read slot start longer other)

theorem Preferred.asymm {decision other : Decision} (preferred : Preferred decision other) :
    ¬ Preferred other decision := by
  intro reversed
  cases preferred with
  | branch earlier =>
      cases reversed with
      | branch later => omega
  | take => cases reversed
  | read shorter =>
      cases reversed with
      | read longer => omega

/-- The first of several derivations: all others come later in the lexicographic order. -/
structure IsFirst (ways : List Decision → Prop) (way : List Decision) : Prop where
  holds : ways way
  before : ∀ other, ways other → other = way ∨ List.Lex Preferred way other

theorem IsFirst.unique {ways : List Decision → Prop} {way other : List Decision}
    (isFirst : IsFirst ways way) (otherFirst : IsFirst ways other) : way = other := by
  rcases otherFirst.before way isFirst.holds with same | later
  · exact same
  · rcases isFirst.before other otherFirst.holds with same | reversed
    · exact same.symm
    · exact absurd reversed (List.lex_asymm Preferred.asymm later)

/-- The pattern consumes all tokens of the session by these decisions, where slots are read as they are
at the session's depth. -/
def Session.Derives (session : Session) (pattern : Pattern) (way : List Decision) : Prop :=
  NodesDerive session.readSlot session.tokens pattern.nodes 0 way session.tokens.length

end ScriptBridge.Parsing
