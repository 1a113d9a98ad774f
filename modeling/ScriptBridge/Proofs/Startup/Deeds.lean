import ScriptBridge.Startup
/-!
A start told deed by deed. What each deed makes of the host and of the start under way is a rule of its own;
a deed that fails ends the start, since nothing can be done at the stage it leads to. A start does what is
planned from the first deed on: all of it if it succeeds, and otherwise less than what setting up takes, so
that neither the host's bus nor its ticker has been touched.
-/

namespace ScriptBridge

/-- One thing that is done while something is registered or started. -/
inductive Deed where
  | call (act : Registrar → Registrar × Except RegistrationError Unit)
  | register (extension : Extension)
  | close
  | complete (extension : Extension)
  | load (script : String × String)
  | install
  | attach
  | dispatch (event : Event)

/-- How far a start has come. -/
inductive Stage where
  | registering (registrar : Registrar)
  | closed (context : SealedContext) (scripts : List LoadedScript)
  | installed (running : Running)
  | attached (running : Running)
  | live (running : Running)
  | failed (error : StartupError)

/-- What a deed makes of the host and of the start under way. -/
inductive Does (config : Config) : Deed → Host → Stage → Host → Stage → Prop where
  | register {extension : Extension} {host : Host} {registrar next : Registrar} {scene : Scene}
      (registers : extension.register registrar host.scene = (scene, .ok next)) :
      Does config (.register extension) host (.registering registrar)
        { host with scene } (.registering next)
  | failToRegister {extension : Extension} {host : Host} {registrar : Registrar} {scene : Scene}
      {cause : RegistrationError}
      (fails : extension.register registrar host.scene = (scene, .error cause)) :
      Does config (.register extension) host (.registering registrar)
        { host with scene } (.failed (.extension extension.name cause))
  | close {host : Host} {registrar : Registrar} {context : SealedContext}
      (closes : registrar.close = .ok context) :
      Does config .close host (.registering registrar) host (.closed context [])
  | failToClose {host : Host} {registrar : Registrar} {cause : RegistrationError}
      (fails : registrar.close = .error cause) :
      Does config .close host (.registering registrar) host (.failed (.registration cause))
  | complete {extension : Extension} {host : Host} {context next : SealedContext} {scene : Scene}
      (completes : extension.complete context host.scene = (scene, .ok next)) :
      Does config (.complete extension) host (.closed context [])
        { host with scene } (.closed next [])
  | failToComplete {extension : Extension} {host : Host} {context : SealedContext} {scene : Scene}
      {cause : RegistrationError}
      (fails : extension.complete context host.scene = (scene, .error cause)) :
      Does config (.complete extension) host (.closed context [])
        { host with scene } (.failed (.extension extension.name cause))
  | load {script : String × String} {host : Host} {context : SealedContext}
      {scripts : List LoadedScript} {loading : ScriptLoading}
      (loads : context.loadScript host.scene script.1 script.2 = loading) :
      Does config (.load script) host (.closed context scripts)
        { host with scene := loading.scene } (.closed loading.context (scripts ++ [loading.script]))
  | install {host : Host} {context : SealedContext} {scripts : List LoadedScript}
      {installing : Installing}
      (installs : Bridge.install
        { context := context.finish, warnsUnbridged := config.logsUnbridged }
        { bus := host.bus, state := host.scene } = installing) :
      Does config .install host (.closed context scripts)
        { host with bus := installing.run.bus, scene := installing.run.state }
        (.installed
          { context := context.finish, bridge := installing.bridge, scheduler := {}, scripts
            report := installing.report })
  | attach {host : Host} {running : Running} {ticker : ManualTicker Scene} {scene : Scene}
      (attaches : host.ticker.attach tickJob host.scene = (ticker, scene)) :
      Does config .attach host (.installed running) { host with ticker, scene } (.attached running)
  | dispatch {event : Event} {host : Host} {running : Running} {after : Dispatching Scene}
      (dispatches : running.dispatch event host.scene = after) :
      Does config (.dispatch event) host (.attached running)
        { host with
          scene := after.report.failures.foldl
            (fun scene failure => Journaled.warn (.scriptLoadFailed failure) scene) after.state }
        (.live running)

/-- What several deeds, one after the other, make of the host and of the start under way. -/
inductive DoesAll (config : Config) : List Deed → Host → Stage → Host → Stage → Prop where
  | done {host : Host} {stage : Stage} : DoesAll config [] host stage host stage
  | step {deed : Deed} {deeds : List Deed} {host next final : Host} {stage nextStage last : Stage}
      (does : Does config deed host stage next nextStage)
      (rest : DoesAll config deeds next nextStage final last) :
      DoesAll config (deed :: deeds) host stage final last

/-- All that is planned is done, or an error breaks it off. -/
inductive Carries (config : Config) (plan : List Deed) (host : Host) (stage : Stage) :
    Host → Except StartupError Stage → Prop where
  | whole {after : Host} {last : Stage} (does : DoesAll config plan host stage after last) :
      Carries config plan host stage after (.ok last)
  | broken {after : Host} {deeds : List Deed} {error : StartupError} (begun : deeds <+: plan)
      (does : DoesAll config deeds host stage after (.failed error)) :
      Carries config plan host stage after (.error error)

section Deeds

variable {config : Config} {host next after : Host} {stage nextStage last : Stage}

theorem Does.one {deed : Deed} (does : Does config deed host stage after last) :
    DoesAll config [deed] host stage after last :=
  .step does .done

theorem DoesAll.append {deeds others : List Deed}
    (first : DoesAll config deeds host stage next nextStage)
    (second : DoesAll config others next nextStage after last) :
    DoesAll config (deeds ++ others) host stage after last := by
  induction first with
  | done => exact second
  | step does _ ih => exact .step does (ih second)

/-- Something is done, and then what is planned next. -/
theorem Carries.behind {deeds plan : List Deed} {result : Except StartupError Stage}
    (first : DoesAll config deeds host stage next nextStage)
    (carries : Carries config plan next nextStage after result) :
    Carries config (deeds ++ plan) host stage after result := by
  cases carries with
  | whole does => exact .whole (first.append does)
  | broken begun does => exact .broken (List.prefix_append_right_inj _ |>.2 begun) (first.append does)

/-- What was broken off is so whatever else was planned. -/
theorem Carries.ahead {plan more : List Deed} {error : StartupError}
    (carries : Carries config plan host stage after (.error error)) :
    Carries config (plan ++ more) host stage after (.error error) := by
  cases carries with
  | broken begun does => exact .broken (begun.trans (List.prefix_append ..)) does

/-- Only installing the bridge changes the bus, and only attaching the scheduler the ticker. -/
theorem Does.frame {deed : Deed} (does : Does config deed host stage after last) :
    (deed ≠ .install → after.bus = host.bus) ∧ (deed ≠ .attach → after.ticker = host.ticker) := by
  cases does <;> simp

theorem DoesAll.frame {deeds : List Deed} (does : DoesAll config deeds host stage after last)
    (notInstalled : Deed.install ∉ deeds) (notAttached : Deed.attach ∉ deeds) :
    after.bus = host.bus ∧ after.ticker = host.ticker := by
  induction does with
  | done => exact ⟨rfl, rfl⟩
  | step does _ ih =>
      rw [List.mem_cons, not_or] at notInstalled notAttached
      obtain ⟨sameBus, sameTicker⟩ := ih notInstalled.2 notAttached.2
      obtain ⟨keepsBus, keepsTicker⟩ := does.frame
      exact ⟨sameBus.trans (keepsBus (Ne.symm notInstalled.1)),
        sameTicker.trans (keepsTicker (Ne.symm notAttached.1))⟩

end Deeds

namespace Startup

/-- What setting up takes: every extension registers, the registries are closed, and every extension
completes, in the order in which the extensions were added. -/
def setUp (startup : Startup) : List Deed :=
  startup.extensions.map .register ++ .close :: startup.extensions.map .complete

/-- What going live takes: the scripts are loaded, the bridge is installed, the scheduler is attached, and
scripts are told that they have been loaded. -/
def launch (startup : Startup) : List Deed :=
  startup.scripts.map .load ++ [.install, .attach, .dispatch { occurrence := .scriptLoad }]

/-- All that a start does, in order. -/
def plan (startup : Startup) : List Deed :=
  startup.setUp ++ startup.launch

section Starts

variable {config : Config} {host : Host}

/-- Extensions register one after the other, and the first failure is the last thing that is done. -/
theorem carries_registerAll {extensions : List Extension} {registrar : Registrar} {scene : Scene}
    {result : Except StartupError Registrar}
    (registers : registerAll extensions registrar host.scene = (scene, result)) :
    Carries config (extensions.map .register) host (.registering registrar) { host with scene }
      (result.map .registering) := by
  induction extensions generalizing registrar host with
  | nil =>
      cases registers
      exact .whole .done
  | cons extension rest ih =>
      rw [registerAll] at registers
      split at registers
      · next fails =>
          cases registers
          exact .broken (List.prefix_append [Deed.register extension] _) (Does.failToRegister fails).one
      · next between nextRegistrar here =>
          exact Carries.behind (Does.register here).one (@ih { host with scene := between } _ registers)

/-- Extensions complete one after the other, and the first failure is the last thing that is done. -/
theorem carries_completeAll {extensions : List Extension} {context : SealedContext} {scene : Scene}
    {result : Except StartupError SealedContext}
    (completes : completeAll extensions context host.scene = (scene, result)) :
    Carries config (extensions.map .complete) host (.closed context []) { host with scene }
      (result.map (.closed · [])) := by
  induction extensions generalizing context host with
  | nil =>
      cases completes
      exact .whole .done
  | cons extension rest ih =>
      rw [completeAll] at completes
      split at completes
      · next fails =>
          cases completes
          exact .broken (List.prefix_append [Deed.complete extension] _) (Does.failToComplete fails).one
      · next between nextContext here =>
          exact Carries.behind (Does.complete here).one (@ih { host with scene := between } _ completes)

/-- Setting up follows the plan for it. -/
theorem carries_prepare {startup : Startup} {registrar : Registrar} {scene : Scene}
    {result : Except StartupError SealedContext}
    (prepares : prepare startup.extensions registrar host.scene = (scene, result)) :
    Carries config startup.setUp host (.registering registrar) { host with scene }
      (result.map (.closed · [])) := by
  rw [prepare] at prepares
  split at prepares
  · next fails =>
      cases prepares
      exact Carries.ahead (carries_registerAll fails)
  · next between registered registers =>
      cases carries_registerAll registers with
      | whole registersAll =>
          refine Carries.behind registersAll ?_
          split at prepares
          · next fails =>
              cases prepares
              exact .broken (List.prefix_append [Deed.close] _) (Does.failToClose fails).one
          · next context closes =>
              exact Carries.behind (Does.close closes).one
                (@carries_completeAll config { host with scene := between } _ _ _ _ prepares)

/-- Loading scripts one after the other. -/
theorem doesAll_load {scripts : List (String × String)} {loading : ScriptsLoading}
    (here : loading.scene = host.scene) :
    DoesAll config (scripts.map .load) host (.closed loading.context loading.scripts)
      { host with scene := (scripts.foldl ScriptsLoading.load loading).scene }
      (.closed (scripts.foldl ScriptsLoading.load loading).context
        (scripts.foldl ScriptsLoading.load loading).scripts) := by
  induction scripts generalizing loading host with
  | nil =>
      rw [List.foldl_nil, here]
      exact .done
  | cons script rest ih =>
      have first : Does config (.load script) host (.closed loading.context loading.scripts)
          { host with scene := (loading.load script).scene }
          (.closed (loading.load script).context (loading.load script).scripts) := by
        rw [ScriptsLoading.load, here]
        exact .load rfl
      exact .step first (@ih { host with scene := (loading.load script).scene } _ rfl)

/-- Going live follows the plan for it. -/
theorem doesAll_goLive (startup : Startup) (context : SealedContext) :
    DoesAll startup.config startup.launch host (.closed context [])
      (startup.goLive context host).1 (.live (startup.goLive context host).2) := by
  refine DoesAll.append (@doesAll_load _ host startup.scripts { context, scene := host.scene } rfl) ?_
  exact .step (.install rfl) (.step (.attach rfl) (Does.dispatch rfl).one)

end Starts

end Startup

end ScriptBridge
