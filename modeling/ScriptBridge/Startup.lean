import ScriptBridge.Bridge
import ScriptBridge.Builtins.Basic
import ScriptBridge.Config.Basic
import ScriptBridge.Scheduler.Ticker
import ScriptBridge.Script.Reader
/-!
Startup. Extensions register first, in the order in which they were added; then the registries are
closed, the extensions add what needs them, scripts are read, the bridge is installed on the host's bus,
the scheduler is attached to the host's ticker, and scripts are told that they have been loaded. Nothing
reaches the bus or the ticker before everything that can fail is over.
-/

namespace ScriptBridge

/-- A part of the vocabulary that comes on its own. It registers once, and may add handlers when the
registries are closed. -/
structure Extension where
  name : String
  register : Registrar → Scene → Scene × Except RegistrationError Registrar
  complete : SealedContext → Scene → Scene × Except RegistrationError SealedContext :=
    fun context scene => (scene, .ok context)

/-- The built-in vocabulary as an extension. -/
def Builtins.Options.extension (options : Builtins.Options) : Extension where
  name := "builtins"
  register registrar scene := (scene, options.register registrar)
  complete context scene := (scene, .ok (options.addCommands context))

/-- How the built-in vocabulary is set up in a configuration. -/
def Config.builtins (config : Config) : Builtins.Options where
  entityNamesInScripts := config.entityNamesInScripts
  commandToken := if config.effectCommands then some config.commandToken else none

/-- What the host lends to a start: its bus, its ticker, and the scene. -/
structure Host where
  bus : NativeBus := {}
  ticker : ManualTicker Scene := {}
  scene : Scene

/-- A bridge that was started. -/
structure Running where
  context : BridgeContext
  bridge : Bridge
  scheduler : Scheduler Scene
  scripts : List LoadedScript
  report : InstallReport

/-- What is to be started. The registrar is gone once a start has been under way. -/
structure Startup where
  config : Config
  registrar : Option Registrar := some {}
  extensions : List Extension := []
  scripts : List (String × String) := []

/-- Scripts that were loaded into a context. -/
structure ScriptsLoading where
  context : SealedContext
  scripts : List LoadedScript := []
  scene : Scene

namespace ScriptsLoading

/-- Loads one more script. -/
def load (loading : ScriptsLoading) (script : String × String) : ScriptsLoading :=
  let next := loading.context.loadScript loading.scene script.1 script.2
  { context := next.context, scripts := loading.scripts ++ [next.script], scene := next.scene }

end ScriptsLoading

/-- The job that a host's ticker does: one tick of the scheduler. -/
def tickJob : Job Scene := .tick .done

namespace Running

/-- Dispatches a script event. -/
def dispatch (running : Running) (event : Event) (scene : Scene) : Dispatching Scene :=
  running.context.dispatch event scene

/-- The diagnostic text of a running bridge. -/
def debugText (running : Running) : String :=
  "Running \x7b context: " ++ running.context.debugText ++ ", bridge: " ++ running.bridge.debugText
    ++ ", scheduler: " ++ running.scheduler.debugText ++ ", .. \x7d"

end Running

/-- What a start came to. -/
structure StartOutcome where
  startup : Startup
  host : Host
  result : Except StartupError Running

namespace Startup

/-- Adds an extension. -/
def withExtension (startup : Startup) (extension : Extension) : Startup :=
  { startup with extensions := startup.extensions ++ [extension] }

/-- Adds the built-in vocabulary as the configuration has it. -/
def withBuiltins (startup : Startup) : Startup :=
  startup.withExtension startup.config.builtins.extension

/-- Adds a script to be loaded. -/
def withScript (startup : Startup) (name source : String) : Startup :=
  { startup with scripts := startup.scripts ++ [(name, source)] }

/-- Whether a start has been under way. -/
def isStarted (startup : Startup) : Bool :=
  startup.registrar.isNone

/-- Registers something ahead of the start. What was registered before an error stays; once closed,
nothing is done. -/
def register (startup : Startup) (act : Registrar → Registrar × Except RegistrationError Unit) :
    Startup × Except StartupError Unit :=
  match startup.registrar with
  | none => (startup, .error .closed)
  | some registrar =>
    let (registrar, result) := act registrar
    ({ startup with registrar := some registrar }, result.mapError .registration)

/-- Lets extensions register one after the other; the first error ends it. -/
def registerAll : List Extension → Registrar → Scene → Scene × Except StartupError Registrar
  | [], registrar, scene => (scene, .ok registrar)
  | extension :: rest, registrar, scene =>
    match extension.register registrar scene with
    | (scene, .error cause) => (scene, .error (.extension extension.name cause))
    | (scene, .ok registrar) => registerAll rest registrar scene

/-- Lets extensions add what needs closed registries; the first error ends it. -/
def completeAll : List Extension → SealedContext → Scene → Scene × Except StartupError SealedContext
  | [], context, scene => (scene, .ok context)
  | extension :: rest, context, scene =>
    match extension.complete context scene with
    | (scene, .error cause) => (scene, .error (.extension extension.name cause))
    | (scene, .ok context) => completeAll rest context scene

/-- Everything of a start that can fail: registration and its end. -/
def prepare (extensions : List Extension) (registrar : Registrar) (scene : Scene) :
    Scene × Except StartupError SealedContext :=
  match registerAll extensions registrar scene with
  | (scene, .error error) => (scene, .error error)
  | (scene, .ok registrar) =>
    match registrar.close with
    | .error cause => (scene, .error (.registration cause))
    | .ok context => completeAll extensions context scene

/-- Tells scripts that they have been loaded; failures are warned of. -/
def announce (running : Running) (scene : Scene) : Scene :=
  let after := running.dispatch { occurrence := .scriptLoad } scene
  after.report.failures.foldl
    (fun scene failure => Journaled.warn (.scriptLoadFailed failure) scene) after.state

/-- Loads scripts and goes live on the host's bus and ticker. -/
def goLive (startup : Startup) (context : SealedContext) (host : Host) : Host × Running :=
  let loading : ScriptsLoading :=
    startup.scripts.foldl ScriptsLoading.load { context, scene := host.scene }
  let context := loading.context.finish
  let bridge : Bridge := { context, warnsUnbridged := startup.config.logsUnbridged }
  let installing := bridge.install { bus := host.bus, state := loading.scene }
  let (ticker, scene) := host.ticker.attach tickJob installing.run.state
  let running : Running :=
    { context
      bridge := installing.bridge
      scheduler := {}
      scripts := loading.scripts
      report := installing.report }
  ({ bus := installing.run.bus, ticker, scene := announce running scene }, running)

/-- Starts a bridge. An invalid configuration leaves everything as it was; any other start closes
registration for good. -/
def start (startup : Startup) (host : Host) : StartOutcome :=
  match startup.config.validate with
  | .error cause => { startup, host, result := .error (.config cause) }
  | .ok () =>
    match startup.registrar with
    | none => { startup, host, result := .error .closed }
    | some registrar =>
      let closed := { startup with registrar := none }
      match prepare startup.extensions registrar host.scene with
      | (scene, .error error) =>
        { startup := closed, host := { host with scene }, result := .error error }
      | (scene, .ok context) =>
        let (host, running) := startup.goLive context { host with scene }
        { startup := closed, host, result := .ok running }

/-- The diagnostic text of a startup. -/
def debugText (startup : Startup) : String :=
  "Startup \x7b config: " ++ startup.config.debugText ++ ", extensions: ["
    ++ ", ".intercalate (startup.extensions.map fun extension => Text.quoted extension.name)
    ++ "], scripts: " ++ toString startup.scripts.length ++ ", started: "
    ++ toString startup.isStarted ++ " \x7d"

end Startup

end ScriptBridge
