import ScriptBridge.TypeKey
/-!
What can go wrong, by cause. Every type of errors has one function `message` that gives the wording;
`Fault.message` adds which kind of error it is.
-/

namespace ScriptBridge

/-- Why a pattern cannot be compiled. -/
inductive PatternFault where
  | danglingEscape
  | unbalanced (mark : Char)
  | missing (mark : Char)
  | unterminatedSlot
  | untypedSlot
  | empty
deriving DecidableEq, Repr

/-- The wording of a pattern fault. -/
def PatternFault.message : PatternFault → String
  | .danglingEscape => "dangling escape at end of pattern"
  | .unbalanced mark => "unbalanced `" ++ mark.toString ++ "`"
  | .missing mark => "missing `" ++ mark.toString ++ "`"
  | .unterminatedSlot => "unterminated `%` slot"
  | .untypedSlot => "slot without a type"
  | .empty => "empty pattern"

/-- Why a registration is refused; `existing` is absent if the wrapper was only declared. -/
inductive RegistrationError where
  | missingConstructor (wrapper : TypeKey)
  | duplicateConstructor (wrapper : TypeKey) (existing : Option TypeKey)
  | duplicateType (name : String)
  | unknownType (name pattern : String)
  | invalidPattern (pattern : String) (fault : PatternFault)
  | noPatterns (name : String)
deriving DecidableEq, Repr

/-- The name of the kind of a registration error. -/
def RegistrationError.kind : RegistrationError → String
  | .missingConstructor _ => "MissingConstructor"
  | .duplicateConstructor .. => "DuplicateConstructor"
  | .duplicateType _ => "DuplicateType"
  | .unknownType .. => "UnknownType"
  | .invalidPattern .. => "InvalidPattern"
  | .noPatterns _ => "NoPatterns"

/-- The wording of a registration error. -/
def RegistrationError.message : RegistrationError → String
  | .missingConstructor wrapper =>
    "wrapper `" ++ wrapper.path ++ "` has no constructor accepting a single native event"
  | .duplicateConstructor wrapper existing =>
    "wrapper `" ++ wrapper.path ++ "` already has a constructor for `"
      ++ (existing.map TypeKey.path).getD "<declared>" ++ "`"
  | .duplicateType name => "type `" ++ name ++ "` is already registered"
  | .unknownType name pattern => "unknown type `" ++ name ++ "` in pattern `" ++ pattern ++ "`"
  | .invalidPattern pattern fault => "invalid pattern `" ++ pattern ++ "`: " ++ fault.message
  | .noPatterns name => "no patterns given for `" ++ name ++ "`"

/-- Why a value cannot be rendered, persisted or rebuilt. -/
inductive ConversionError where
  | missingField (name : String)
  | wrongFieldType (field expected : String)
  | unsupported (type : String)
  | typeMismatch (type : String)
  | notSerializable (type : String)
deriving DecidableEq, Repr

/-- The name of the kind of a conversion error. -/
def ConversionError.kind : ConversionError → String
  | .missingField _ => "MissingField"
  | .wrongFieldType .. => "WrongFieldType"
  | .unsupported _ => "Unsupported"
  | .typeMismatch _ => "TypeMismatch"
  | .notSerializable _ => "NotSerializable"

/-- The wording of a conversion error. -/
def ConversionError.message : ConversionError → String
  | .missingField name => "missing field `" ++ name ++ "`"
  | .wrongFieldType field expected => "field `" ++ field ++ "` is not a " ++ expected
  | .unsupported type => "type `" ++ type ++ "` does not support this deserialization path"
  | .typeMismatch type => "value is not a `" ++ type ++ "`"
  | .notSerializable type => "type `" ++ type ++ "` has no serializer"

/-- Why an expression or an effect fails on an event. -/
inductive EvalError where
  | notSingle (expression : String) (count : Nat)
  | missing (expression : String)
  | typeMismatch (expected found : TypeKey)
  | notCancellable (event : String)
deriving DecidableEq, Repr

/-- The name of the kind of an evaluation error. An event that cannot be cancelled is of the wrong
type. -/
def EvalError.kind : EvalError → String
  | .notSingle .. => "NotSingle"
  | .missing _ => "Missing"
  | .typeMismatch .. => "TypeMismatch"
  | .notCancellable _ => "TypeMismatch"

/-- The wording of an evaluation error. -/
def EvalError.message : EvalError → String
  | .notSingle expression count =>
    "expected a single value from `" ++ expression ++ "`, got " ++ toString count
  | .missing expression => "`" ++ expression ++ "` has no value for this event"
  | .typeMismatch expected found =>
    "expected a value of type `" ++ expected.path ++ "`, got `" ++ found.path ++ "`"
  | .notCancellable event =>
    "expected a value of type `cancellable event`, got `" ++ event ++ "`"

/-- Why a chat line taken as a command did nothing. -/
inductive CommandError where
  | unparsed (line : String)
  | failed (effect : String) (cause : EvalError)
deriving DecidableEq, Repr

/-- The name of the kind of a command error. -/
def CommandError.kind : CommandError → String
  | .unparsed _ => "Unparsed"
  | .failed .. => "Failed"

/-- The wording of a command error. -/
def CommandError.message : CommandError → String
  | .unparsed line => "can't understand this effect: " ++ line
  | .failed effect cause => "`" ++ effect ++ "` failed: " ++ cause.message

/-- What a handler reports when it fails. -/
inductive HandlerFault where
  | told (text : String)
  | trigger (name : String) (errors : List EvalError)
  | command (error : CommandError)
deriving DecidableEq, Repr

/-- The wording of what a handler reports. -/
def HandlerFault.message : HandlerFault → String
  | .told text => text
  | .trigger name errors => toString errors.length ++ " effect(s) failed in " ++ name
  | .command error => error.message

/-- How a handler ended badly. -/
inductive HandlerError where
  | failed (name : String) (fault : HandlerFault)
  | panicked (name : String) (message : String)
deriving DecidableEq, Repr

/-- The name of the kind of a handler error. -/
def HandlerError.kind : HandlerError → String
  | .failed .. => "Failed"
  | .panicked .. => "Panic"

/-- The wording of a handler error. -/
def HandlerError.message : HandlerError → String
  | .failed name fault => "handler `" ++ name ++ "` failed: " ++ fault.message
  | .panicked name message => "handler `" ++ name ++ "` panicked: " ++ message

/-- What is wrong with a line of a script. -/
inductive ScriptFault where
  | unknownEvent (header : String)
  | unknownEffect (line : String)
  | notATrigger (line : String)
  | orphanEffect
  | emptyTrigger (event : String)
deriving DecidableEq, Repr

/-- The name of the kind of a script fault. -/
def ScriptFault.kind : ScriptFault → String
  | .unknownEvent _ => "UnknownEvent"
  | .unknownEffect _ => "UnknownEffect"
  | .notATrigger _ => "NotATrigger"
  | .orphanEffect => "OrphanEffect"
  | .emptyTrigger _ => "EmptyTrigger"

/-- The wording of a script fault. -/
def ScriptFault.message : ScriptFault → String
  | .unknownEvent header => "can't understand this event: `" ++ header ++ "`"
  | .unknownEffect line => "can't understand this effect: `" ++ line ++ "`"
  | .notATrigger line => "expected `on <event>:`, found `" ++ line ++ "`"
  | .orphanEffect => "effect outside of a trigger"
  | .emptyTrigger event => "trigger `on " ++ event ++ "` has no effects"

/-- A failing line of a script; lines count from one. -/
structure ScriptError where
  script : String
  line : Nat
  fault : ScriptFault
deriving DecidableEq, Repr

/-- The wording of a script error. -/
def ScriptError.message (error : ScriptError) : String :=
  error.script ++ ":" ++ toString error.line ++ ": " ++ error.fault.message

/-- Why a configuration is refused. -/
inductive ConfigError where
  | unreadable
  | malformed
  | invalid (field reason : String)
deriving DecidableEq, Repr

/-- The name of the kind of a configuration error. -/
def ConfigError.kind : ConfigError → String
  | .unreadable => "Io"
  | .malformed => "Parse"
  | .invalid .. => "Invalid"

/-- The wording of a configuration error. -/
def ConfigError.message : ConfigError → String
  | .unreadable => "failed to read config"
  | .malformed => "failed to parse config"
  | .invalid field reason => "invalid config value for `" ++ field ++ "`: " ++ reason

/-- Why startup failed. -/
inductive StartupError where
  | extension (name : String) (cause : RegistrationError)
  | registration (cause : RegistrationError)
  | config (cause : ConfigError)
  | closed
deriving DecidableEq, Repr

/-- The name of the kind of a startup error; one of the configuration keeps its own. -/
def StartupError.kind : StartupError → String
  | .extension .. => "Extension"
  | .registration _ => "Registration"
  | .config cause => cause.kind
  | .closed => "Closed"

/-- The wording of a startup error. -/
def StartupError.message : StartupError → String
  | .extension name cause => "extension `" ++ name ++ "` failed to register: " ++ cause.message
  | .registration cause => "invalid registration: " ++ cause.message
  | .config cause => cause.message
  | .closed => "startup already ran; registration is closed"

/-- Any error outside scripts and startup, with the kind it is of. -/
inductive Fault where
  | registration (error : RegistrationError)
  | conversion (error : ConversionError)
  | evaluation (error : EvalError)
  | handler (error : HandlerError)
deriving DecidableEq, Repr

/-- The name of the kind of an error. -/
def Fault.kind : Fault → String
  | .registration error => error.kind
  | .conversion error => error.kind
  | .evaluation error => error.kind
  | .handler error => error.kind

/-- The wording of an error, led by what it arose in. -/
def Fault.message : Fault → String
  | .registration error => "registration error: " ++ error.message
  | .conversion error => "conversion error: " ++ error.message
  | .evaluation error => "evaluation error: " ++ error.message
  | .handler error => "handler error: " ++ error.message

end ScriptBridge
