import ScriptBridge.Probe.Registration
import ScriptBridge.Probe.Tasks
/-!
Sessions: a vocabulary under construction or in use, with everything that it acts on. A session either
builds a context step by step, or prepares a startup and then runs it. What is asked of a session at a
stage that does not have it has no answer.
-/

namespace ScriptBridge.Probe

/-- How far a session has come: a context is being built, is closed, or has a bridge; it could not be
closed; a startup is being prepared, or its bridge is running. -/
inductive Stage where
  | building (registrar : Registrar)
  | closed (context : SealedContext)
  | bridged (bridge : Bridge)
  | failed
  | prepared (startup : Startup)
  | started (startup : Startup) (running : Running)

/-- A session: its stage, the scene, the names of the events that it keeps, the tasks that it scheduled,
and the host's bus and ticker. -/
structure Session where
  stage : Stage
  scene : Scene
  names : Table String Nat := {}
  tasks : List TaskId := []
  bus : NativeBus := {}
  ticker : ManualTicker Scene := {}

/-- An event to act on: a fresh one, or one that is kept at a place. -/
structure Subject where
  event : Event
  place : Option Nat := none

namespace Session

/-- A session that builds a context in a world without entities. -/
def building : Session where
  stage := .building {}
  scene := { world := { bodies := [] } }

/-- The frozen registries. -/
def registries? (session : Session) : Option Registries :=
  match session.stage with
  | .closed context => some context.registries
  | .bridged bridge => some bridge.context.registries
  | .started _ running => some running.context.registries
  | _ => none

/-- The bridge. -/
def bridge? (session : Session) : Option Bridge :=
  match session.stage with
  | .bridged bridge => some bridge
  | .started _ running => some running.bridge
  | _ => none

/-- The diagnostic text of a bridge that no startup runs; a running one is told of by its startup. -/
def bridgeText? (session : Session) : Option String :=
  match session.stage with
  | .bridged bridge => some bridge.debugText
  | _ => none

/-- The finished context. -/
def context? (session : Session) : Option BridgeContext :=
  session.bridge?.map Bridge.context

/-- The startup. -/
def startup? (session : Session) : Option Startup :=
  match session.stage with
  | .prepared startup => some startup
  | .started startup _ => some startup
  | _ => none

/-- The bridge of a startup. -/
def running? (session : Session) : Option Running :=
  match session.stage with
  | .started _ running => some running
  | _ => none

/-- The session with another bridge in place of its own. -/
def withBridge (session : Session) (bridge : Bridge) : Session :=
  match session.stage with
  | .bridged _ => { session with stage := .bridged bridge }
  | .started startup running => { session with stage := .started startup { running with bridge } }
  | _ => session

/-- The session with another startup in place of its own. -/
def withStartup (session : Session) (startup : Startup) : Session :=
  match session.stage with
  | .prepared _ => { session with stage := .prepared startup }
  | .started _ running => { session with stage := .started startup running }
  | _ => session

/-- The session with another scheduler in place of its own. -/
def withScheduler (session : Session) (scheduler : Scheduler Scene) : Session :=
  match session.stage with
  | .started startup running =>
    { session with stage := .started startup { running with scheduler } }
  | _ => session

/-- The session on another scene. -/
def onScene (change : Scene → Scene) (session : Session) : Session :=
  { session with scene := change session.scene }

/-- The session with an empty journal. -/
def unlogged (session : Session) : Session :=
  session.onScene Scene.unlogged

/-- Registers something with the startup before it starts. -/
def register (registration : Registrar → Registrar × Except RegistrationError Unit)
    (session : Session) : Option (Session × Except StartupError Unit) :=
  session.startup?.map fun startup =>
    let (startup, registered) := startup.register registration
    (session.withStartup startup, registered)

/-- Adds an extension to the startup. -/
def addExtension (extension : Extension) (session : Session) : Option (Session × Unit) :=
  session.startup?.map fun startup => (session.withStartup (startup.withExtension extension), ())

/-- Closes the registries of a context that is being built; the session is over if they cannot be. -/
def close (session : Session) : Option (Session × Except RegistrationError Unit) :=
  match session.stage with
  | .building registrar =>
    match registrar.close with
    | .error error => some ({ session with stage := .failed }, .error error)
    | .ok context => some ({ session with stage := .closed context }, .ok ())
  | _ => none

/-- Finishes a context, closing its registries first if they are not, and puts a bridge on it. -/
def finish (warnsUnbridged : Bool) (session : Session) :
    Option (Session × Except RegistrationError Unit) :=
  match session.stage with
  | .closed context =>
    some ({ session with stage := .bridged { context := context.finish, warnsUnbridged } }, .ok ())
  | .building registrar =>
    match registrar.close with
    | .error error => some ({ session with stage := .failed }, .error error)
    | .ok context =>
      some ({ session with stage := .bridged { context := context.finish, warnsUnbridged } }, .ok ())
  | _ => none

/-- Loads a script into a closed context. -/
def loadScript (name source : String) (session : Session) : Option (Session × LoadedScript) :=
  match session.stage with
  | .closed context =>
    let loading := context.loadScript session.scene name source
    some ({ session with stage := .closed loading.context, scene := loading.scene }, loading.script)
  | _ => none

/-- Adds a handler to a closed context. -/
def addHandler (key : TypeKey) (probe : HandlerProbe) (session : Session) :
    Option (Session × Option HandlerListToken) :=
  match session.stage with
  | .closed context =>
    let handlers := Probe.addHandler key probe context.handlers
    some ({ session with stage := .closed { context with handlers } }, handlers.token? key)
  | _ => none

/-- Starts the startup on the host. -/
def start (session : Session) : Option (Session × Except StartupError Running) :=
  session.startup?.map fun startup =>
    let host : Host := { bus := session.bus, ticker := session.ticker, scene := session.scene }
    let outcome := startup.start host
    let after :=
      { session.withStartup outcome.startup with
        bus := outcome.host.bus, ticker := outcome.host.ticker, scene := outcome.host.scene }
    match outcome.result with
    | .error error => (after, .error error)
    | .ok running => ({ after with stage := .started outcome.startup running }, .ok running)

/-- Keeps an event under a name. -/
def keep (name : String) (event : Event) (session : Session) : Session :=
  let (scene, place) := session.scene.hold event
  { session with scene, names := session.names.insert name place }

/-- The event kept under a name. -/
def kept? (session : Session) (name : String) : Option Subject := do
  let place ← session.names.get? name
  let event ← session.scene.heldAt? place
  pure { event, place := some place }

/-- Writes the flag of an event back to where it is kept. -/
def putBack (subject : Subject) (cancelled : Bool) (session : Session) : Session :=
  match subject.place with
  | none => session
  | some place => { session with scene := session.scene.setHeldFlag place cancelled }

/-- Reads an effect, and writes down the attempts. -/
def readEffect (text : String) (options : ParseOptions) (session : Session) :
    Option (Session × Option Effect) :=
  session.registries?.map fun registries =>
    let search := registries.searchEffect session.scene.world text options
    ({ session with scene := session.scene.noteAll search.notices }, search.effect?)

/-- Performs an effect on an event. -/
def perform (effect : Effect) (subject : Subject) (session : Session) :
    Session × Except EvalError Unit :=
  let turn := effect.perform subject.event session.scene
  (putBack subject turn.cancelled { session with scene := turn.state }, turn.ending)

/-- Dispatches an event. -/
def dispatch (subject : Subject) (session : Session) :
    Option (Session × DispatchReport × Event) :=
  session.context?.map fun context =>
    let after := context.dispatch subject.event session.scene
    (putBack subject after.event.cancelled { session with scene := after.state }, after.report,
      after.event)

/-- Installs the bridge on the bus. -/
def install (session : Session) : Option (Session × InstallReport) :=
  session.bridge?.map fun bridge =>
    let after := bridge.install { bus := session.bus, state := session.scene }
    (withBridge { session with bus := after.run.bus, scene := after.run.state } after.bridge,
      after.report)

/-- Publishes a native event on the bus; the bridge publishes nothing in turn. -/
def publish (key : TypeKey) (event : NativeEvent) (session : Session) : Option (Session × Nat) := do
  let (called, after) ← BusRun.publish 1 key event { bus := session.bus, state := session.scene }
  pure ({ session with bus := after.bus, scene := after.state }, called)

/-- Runs effect commands on a fresh chat event. -/
def command (token : String) (event : Event) (session : Session) :
    Option (Session × Builtins.CommandResult × Event) :=
  session.registries?.map fun registries =>
    let commands : Builtins.EffectCommands := { registries, token }
    let turn := commands.run event session.scene
    ({ session with scene := turn.state }, turn.ending, event.withCancelled turn.cancelled)

/-- Schedules the performance of an effect on an event, which is kept from then on; the answer is the
task's number among those of the session. There is no task if it would be due too late. -/
def schedule (effect : Effect) (subject : Subject) (delay : UInt64) (period : Option UInt64)
    (session : Session) : Option (Session × Option Nat) :=
  session.running?.map fun running =>
    let (scene, place) :=
      match subject.place with
      | some place => (session.scene, place)
      | none => session.scene.hold subject.event
    match running.scheduler.schedule delay period (effectJob effect place) with
    | (scheduler, none) => (session.withScheduler scheduler, none)
    | (scheduler, some id) =>
      (withScheduler { session with scene, tasks := session.tasks ++ [id] } scheduler,
        some session.tasks.length)

/-- Takes a task of the session off the queue; the answer says whether it was there. -/
def cancelTask (number : Nat) (session : Session) : Option (Session × Option Bool) :=
  session.running?.map fun running =>
    match session.tasks[number]? with
    | none => (session, none)
    | some id =>
      let (scheduler, found) := running.scheduler.cancel id
      (session.withScheduler scheduler, some found)

/-- Advances the host's ticker, until a tick panics; jobs of a session do not tick in turn. There is no
scheduler to show after a panic. -/
def advance (count : Nat) (session : Session) : Option (Session × Option (Scheduler Scene)) := do
  let running ← session.running?
  let (after, ending) ←
    session.ticker.advanceBy 1 count { scheduler := running.scheduler, state := session.scene }
  pure (withScheduler { session with scene := after.state } after.scheduler,
    if ending = .finished then some after.scheduler else none)

end Session

end ScriptBridge.Probe
