import ScriptBridge.Proofs.Dispatch.Ahead
import ScriptBridge.Proofs.Startup.Scripts
/-!
Where effect commands stand among the handlers of chat lines. Their handler has the lowest priority, but it is
added when the registries are closed, and within a priority handlers run in the order in which they were added.
Main statement: in every bridge that was started, the handlers that run before it are exactly those of the lowest
priority that were there when it was added; all others run after it and find the line as it left it.
-/

namespace ScriptBridge

/-! ### Handlers that are added during a start -/

/-- When the registries are closed, the extension adds handlers behind those that there are, and changes nothing
else. -/
def Extension.Adds (extension : Extension) : Prop :=
  ∀ context scene sceneAfter next, extension.complete context scene = (sceneAfter, .ok next) →
    next.registries = context.registries ∧ context.handlers.entries <+: next.handlers.entries

namespace Startup

/-- What several extensions add comes behind what there was. -/
theorem adds_completeAll {extensions : List Extension} (adding : ∀ extension ∈ extensions, extension.Adds)
    {context next : SealedContext} {scene sceneAfter : Scene}
    (completes : completeAll extensions context scene = (sceneAfter, .ok next)) :
    next.registries = context.registries ∧ context.handlers.entries <+: next.handlers.entries := by
  induction extensions generalizing context scene with
  | nil =>
      cases completes
      exact ⟨rfl, List.prefix_refl _⟩
  | cons extension rest ih =>
      obtain ⟨here, others⟩ := List.forall_mem_cons.1 adding
      rw [completeAll] at completes
      split at completes
      · cases completes
      · next between first =>
          obtain ⟨registries, behind⟩ := here _ _ _ _ first
          obtain ⟨registriesRest, behindRest⟩ := ih others completes
          exact ⟨registriesRest.trans registries, behind.trans behindRest⟩

/-- Extensions that all complete do so one part after the other. -/
theorem completeAll_append {extensions others : List Extension} {context next : SealedContext}
    {scene sceneAfter : Scene}
    (completes : completeAll (extensions ++ others) context scene = (sceneAfter, .ok next)) :
    ∃ between sceneBetween, completeAll extensions context scene = (sceneBetween, .ok between)
      ∧ completeAll others between sceneBetween = (sceneAfter, .ok next) := by
  induction extensions generalizing context scene with
  | nil => exact ⟨context, scene, rfl, completes⟩
  | cons extension rest ih =>
      rw [List.cons_append, completeAll] at completes
      split at completes
      · cases completes
      · next here =>
          obtain ⟨between, sceneBetween, first, last⟩ := ih completes
          exact ⟨between, sceneBetween, by rw [completeAll, here]; exact first, last⟩

/-- A bridge that was started has the registries that the extensions completed, and behind their handlers the
triggers of scripts. -/
theorem completed_of_start {startup : Startup} {host : Host} {running : Running}
    (starts : (startup.start host).result = .ok running) :
    ∃ closed context scene sceneAfter triggers,
      completeAll startup.extensions closed scene = (sceneAfter, .ok context)
        ∧ running.context.registries = context.registries
        ∧ running.context.dispatcher
          = HandlerTable.build { entries := context.handlers.entries ++ triggers }
              context.registries.wrappers := by
  rw [start] at starts
  split at starts
  · cases starts
  · split at starts
    · cases starts
    · next registrar _ =>
        split at starts
        · cases starts
        · next scene context prepares =>
            cases starts
            rw [prepare] at prepares
            split at prepares
            · cases prepares
            · next between registered _ =>
                split at prepares
                · cases prepares
                · next closed _ =>
                    obtain ⟨more, -, -, registries, entries⟩ :=
                      ScriptsLoading.foldl_load startup.scripts { context, scene }
                    let loaded := startup.scripts.foldl ScriptsLoading.load { context, scene }
                    refine ⟨closed, context, between, scene,
                      (more.flatMap LoadedScript.triggers).map Trigger.entry, prepares, registries, ?_⟩
                    show loaded.context.handlers.build loaded.context.registries.wrappers = _
                    rw [registries]
                    exact congrArg (fun entries => HandlerTable.build { entries } _) entries

end Startup

/-! ### The place of effect commands -/

/-- The entry of effect commands in a table of handlers. -/
def Builtins.EffectCommands.entry (commands : EffectCommands) : HandlerEntry Scene where
  key := .playerChat
  handler := commands.handler
  info := handlerMeta

/-- Among the handlers of a bridge stands that for effect commands; the extensions behind the built-in one, and
the scripts, have theirs behind it. -/
theorem Startup.commands_of_start {startup : Startup} {host : Host} {running : Running}
    {earlier later : List Extension} (enabled : startup.config.effectCommands = true)
    (listed : startup.extensions = earlier ++ startup.config.builtins.extension :: later)
    (adding : ∀ extension ∈ later, extension.Adds)
    (starts : (startup.start host).result = .ok running) :
    let registries := running.context.registries
    let commands : Builtins.EffectCommands := { registries, token := startup.config.commandToken }
    ∃ table before after, running.context.dispatcher = HandlerTable.build table registries.wrappers
      ∧ table.entries = before ++ commands.entry :: after := by
  obtain ⟨closed, context, scene, sceneAfter, triggers, completes, registries, dispatcher⟩ :=
    completed_of_start starts
  rw [listed] at completes
  obtain ⟨between, sceneBetween, -, completes⟩ := completeAll_append completes
  rw [completeAll] at completes
  have token : startup.config.builtins.commandToken = some startup.config.commandToken := by
    rw [Config.builtins, if_pos enabled]
  have added : startup.config.builtins.extension.complete between sceneBetween
      = (sceneBetween, .ok (between.addHandler .playerChat Builtins.EffectCommands.handlerMeta
          (Builtins.EffectCommands.handler
            { registries := between.registries, token := startup.config.commandToken }))) := by
    simp [Builtins.Options.extension, Builtins.Options.addCommands, token]
  rw [added] at completes
  obtain ⟨same, more, entries⟩ := adds_completeAll adding completes
  have kept : running.context.registries = between.registries := registries.trans same
  refine ⟨_, between.handlers.entries, more ++ triggers, registries ▸ dispatcher, ?_⟩
  show context.handlers.entries ++ triggers = _
  rw [← entries, kept, List.append_assoc, List.append_cons]
  rfl

/-- Where effect commands come among the handlers of chat lines. Whatever was registered before a start, and
whatever extensions there are, those behind the built-in one only adding handlers, the handlers of a chat line
are first the handlers of the lowest priority that were registered before that for effect commands, in their
order, then this one, and then all others. So it is the first just if none of the lowest priority was registered
before it. It is never passed over, and the others find the line as it left it. -/
theorem Startup.commands_follow_lowest {startup : Startup} {host : Host} {running : Running}
    {earlier later : List Extension} (enabled : startup.config.effectCommands = true)
    (listed : startup.extensions = earlier ++ startup.config.builtins.extension :: later)
    (adding : ∀ extension ∈ later, extension.Adds)
    (starts : (startup.start host).result = .ok running) :
    let registries := running.context.registries
    let lineage := registries.wrappers.lineage .playerChat
    let commands : Builtins.EffectCommands := { registries, token := startup.config.commandToken }
    ∃ before after late : List (HandlerEntry Scene),
      let early := before.filter fun entry => entry.key ∈ lineage ∧ entry.info.priority = .lowest
      running.context.dispatcher.table.entries = before ++ commands.entry :: after
        ∧ running.context.dispatcher.handlersFor .playerChat = early ++ commands.entry :: late
        ∧ (early ++ late).Perm ((before ++ after).filter (·.key ∈ lineage))
        ∧ ∀ event scene, event.key = .playerChat →
            let dispatched := running.dispatch event scene
            ∃ visits reached between others,
              Course early event scene visits reached between
                ∧ reached.occurrence = event.occurrence
                ∧ Course late (reached.withCancelled (commands.run reached between).cancelled)
                    (commands.entry.stateAfter reached between) others dispatched.event dispatched.state
                ∧ dispatched.report = reportOf
                    (visits ++ .invoked "effect commands" (commands.handler reached between).ending
                      :: others) := by
  intro registries lineage commands
  obtain ⟨table, before, after, dispatcher, holds⟩ := commands_of_start enabled listed adding starts
  have fits : commands.entry.isLowestFor lineage = true :=
    decide_eq_true ⟨WrapperRegistry.self_mem_lineage _ _, rfl⟩
  obtain ⟨late, order, rest⟩ := handlersFor_of_lowest registries.wrappers holds fits
  refine ⟨before, after, late, ?_, ?_, rest, ?_⟩
  · rw [dispatcher]
    exact holds
  · rw [dispatcher]
    exact order
  · intro event scene chat dispatched
    obtain ⟨all, course, report⟩ := foldl_runEntry_course
      (running.context.dispatcher.handlersFor event.key) { report := {}, event, state := scene }
    have handlers : running.context.dispatcher.handlersFor event.key
        = before.filter (·.isLowestFor lineage) ++ commands.entry :: late := by
      rw [chat, dispatcher]
      exact order
    have whole : Course (before.filter (·.isLowestFor lineage) ++ commands.entry :: late) event scene all
        dispatched.event dispatched.state := handlers ▸ course
    obtain ⟨visits, behind, reached, between, rfl, first, second⟩ := whole.split
    have same := first.occurrence_eq
    have isChat : reached.key = .playerChat := by
      rw [Event.key, same]
      exact chat
    cases second with
    | skip ignores => cases ignores
    | @invoke _ _ _ _ _ _ others _ rest =>
        refine ⟨visits, reached, between, others, first, same, ?_, ?_⟩
        · have cancels : (commands.entry.handler reached between).cancelled
              = (commands.run reached between).cancelled := by
            show (Handler.only .playerChat _ reached between).cancelled = _
            rw [Handler.only, if_pos isChat]
          rw [← cancels]
          exact rest
        · refine report.trans ?_
          simp [DispatchReport.extend]
          rfl

/-- What is known of a handler that means to run ahead of all others. -/
def watchMeta : HandlerMeta := { name := "watch", priority := .lowest }

/-- A startup with effect commands and that handler, which is registered ahead of the start. -/
def watched : Startup :=
  let handlers := HandlerTable.register {} .playerChat watchMeta Handler.counting
  Startup.withBuiltins { config := { effectCommands := true }, registrar := some { handlers } }

/-- That handler runs before effect commands, and finds a command line as it came. -/
theorem Startup.commands_follow_lowest_watched :
    ∃ running early late, (watched.start { scene := { world := { bodies := [] } } }).result = .ok running
      ∧ running.context.dispatcher.handlersFor .playerChat
        = early ++ Builtins.EffectCommands.entry
            { registries := running.context.registries, token := "!" } :: late
      ∧ early.map (·.info) = [watchMeta] := by
  have known : (watched.start { scene := { world := { bodies := [] } } }).result.toOption.map
      (fun running => running.context.dispatcher.table.entries.map fun entry => (entry.key, entry.info))
        = some [(.playerChat, watchMeta), (.playerChat, Builtins.EffectCommands.handlerMeta)] := by
    decide +kernel
  cases starts : (watched.start { scene := { world := { bodies := [] } } }).result with
  | error error =>
      rw [starts] at known
      cases known
  | ok running =>
      obtain ⟨before, after, late, entries, order, -⟩ :=
        @commands_follow_lowest watched _ running [] [] rfl rfl (List.forall_mem_nil _) starts
      refine ⟨running, _, late, rfl, order, ?_⟩
      rw [starts] at known
      have all := Option.some.inj known
      dsimp only at all
      rw [entries, List.map_append, List.map_cons] at all
      match before with
      | [] =>
          obtain ⟨-, info⟩ := Prod.mk.inj (List.cons.inj all).1
          have apart : Builtins.EffectCommands.handlerMeta ≠ watchMeta := by decide
          exact absurd info apart
      | [watch] =>
          obtain ⟨key, info⟩ := Prod.mk.inj (List.cons.inj all).1
          rw [List.filter_cons_of_pos, List.filter_nil, List.map_singleton, info]
          rw [key, info]
          exact decide_eq_true ⟨WrapperRegistry.self_mem_lineage _ _, rfl⟩
      | _ :: _ :: _ => simp at all

end ScriptBridge
