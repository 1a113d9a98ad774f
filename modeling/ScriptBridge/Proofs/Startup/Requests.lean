import ScriptBridge.Proofs.Startup.Deeds
/-!
What a startup makes of requests. It is asked, in any order and any number of times, to register something
or to start on some host. An invalid configuration turns every start down and changes nothing; with a valid
one the first start is the only one, whether it succeeds or not, and whatever is asked after it is refused
with nothing done.
-/

namespace ScriptBridge

/-- What a startup may be asked: to register something, or to start on a host. -/
inductive Request where
  | register (act : Registrar → Registrar × Except RegistrationError Unit)
  | start (host : Host)

/-- What it answers; a start also leaves the host in some way. -/
inductive Answer where
  | registered (result : Except StartupError Unit)
  | started (host : Host) (result : Except StartupError Running)

/-- Does what is asked. -/
def Startup.serve (startup : Startup) : Request → Startup × Answer
  | .register act =>
    let (next, result) := startup.register act
    (next, .registered result)
  | .start host =>
    let outcome := startup.start host
    (outcome.startup, .started outcome.host outcome.result)

/-- A request, what was done, and the answer. -/
structure Exchange where
  request : Request
  deeds : List Deed
  answer : Answer

/-- By this exchange a startup becomes another. -/
inductive Exchanged : Startup → Exchange → Startup → Prop where
  | call {startup : Startup} {registrar : Registrar}
      {act : Registrar → Registrar × Except RegistrationError Unit}
      (isOpen : startup.registrar = some registrar) :
      Exchanged startup
        ⟨.register act, [.call act], .registered ((act registrar).2.mapError .registration)⟩
        { startup with registrar := some (act registrar).1 }
  | refuseCall {startup : Startup} {act : Registrar → Registrar × Except RegistrationError Unit}
      (isClosed : startup.registrar = none) :
      Exchanged startup ⟨.register act, [], .registered (.error .closed)⟩ startup
  | turnDown {startup : Startup} {host : Host} {cause : ConfigError}
      (invalid : startup.config.validate = .error cause) :
      Exchanged startup ⟨.start host, [], .started host (.error (.config cause))⟩ startup
  | refuseStart {startup : Startup} {host : Host} (valid : startup.config.validate = .ok ())
      (isClosed : startup.registrar = none) :
      Exchanged startup ⟨.start host, [], .started host (.error .closed)⟩ startup
  | start {startup : Startup} {registrar : Registrar} {host after : Host} {running : Running}
      (valid : startup.config.validate = .ok ()) (isOpen : startup.registrar = some registrar)
      (does : DoesAll startup.config startup.plan host (.registering registrar) after
        (.live running)) :
      Exchanged startup ⟨.start host, startup.plan, .started after (.ok running)⟩
        { startup with registrar := none }
  | fail {startup : Startup} {registrar : Registrar} {host after : Host} {deeds : List Deed}
      {error : StartupError} (valid : startup.config.validate = .ok ())
      (isOpen : startup.registrar = some registrar) (begun : deeds <+: startup.setUp)
      (does : DoesAll startup.config deeds host (.registering registrar) after (.failed error)) :
      Exchanged startup ⟨.start host, deeds, .started after (.error error)⟩
        { startup with registrar := none }

/-- What a startup does with requests, one after the other. -/
inductive Startup.Serves : Startup → List Request → List Exchange → Startup → Prop where
  | done {startup : Startup} : Startup.Serves startup [] [] startup
  | next {startup final : Startup} {request : Request} {rest : List Request} {deeds : List Deed}
      {later : List Exchange}
      (exchanged : Exchanged startup ⟨request, deeds, (startup.serve request).2⟩
        (startup.serve request).1)
      (serves : Startup.Serves (startup.serve request).1 rest later final) :
      Startup.Serves startup (request :: rest) (⟨request, deeds, (startup.serve request).2⟩ :: later) final

/-- Every request is served by one of the rules. -/
theorem Startup.exists_exchanged (startup : Startup) (request : Request) :
    ∃ deeds, Exchanged startup ⟨request, deeds, (startup.serve request).2⟩
      (startup.serve request).1 := by
  cases request with
  | register act =>
      rw [serve, register]
      cases found : startup.registrar with
      | none => exact ⟨[], .refuseCall found⟩
      | some registrar => exact ⟨[.call act], .call found⟩
  | start host =>
      rw [serve, start]
      cases validates : startup.config.validate with
      | error cause => exact ⟨[], .turnDown validates⟩
      | ok _ =>
          cases found : startup.registrar with
          | none => exact ⟨[], .refuseStart validates found⟩
          | some registrar =>
              simp only
              split
              · next prepares =>
                  cases carries_prepare prepares with
                  | broken begun does => exact ⟨_, .fail validates found begun does⟩
              · next scene context prepares =>
                  cases @carries_prepare startup.config host _ _ _ _ prepares with
                  | whole does =>
                      exact ⟨_, .start validates found (does.append (doesAll_goLive startup context))⟩

theorem Startup.exists_serves (startup : Startup) (requests : List Request) :
    ∃ exchanges final, startup.Serves requests exchanges final := by
  induction requests generalizing startup with
  | nil => exact ⟨[], startup, .done⟩
  | cons request rest ih =>
      obtain ⟨deeds, exchanged⟩ := startup.exists_exchanged request
      obtain ⟨later, final, serves⟩ := ih (startup.serve request).1
      exact ⟨_, final, .next exchanged serves⟩

/-- An act was called on the open registrar, and its result is the answer. -/
def Exchange.IsCall (exchange : Exchange) : Prop :=
  ∃ act registrar, exchange
    = ⟨.register act, [.call act], .registered ((act registrar).2.mapError .registration)⟩

/-- Nothing was done, and the answer is that all is closed. -/
def Exchange.IsRefusal (exchange : Exchange) : Prop :=
  (∃ act, exchange = ⟨.register act, [], .registered (.error .closed)⟩)
    ∨ ∃ host, exchange = ⟨.start host, [], .started host (.error .closed)⟩

/-- Nothing was done on a start, and the answer is what is wrong with the configuration. -/
def Exchange.TurnsDown (cause : ConfigError) (exchange : Exchange) : Prop :=
  ∃ host, exchange = ⟨.start host, [], .started host (.error (.config cause))⟩

/-- A start did all that is planned, or broke off while setting up and left the bus and the ticker alone. -/
inductive Exchange.Starts (startup : Startup) : Exchange → Prop where
  | up {host after : Host} {running : Running} :
      Exchange.Starts startup ⟨.start host, startup.plan, .started after (.ok running)⟩
  | fails {host after : Host} {deeds : List Deed} {error : StartupError}
      (begun : deeds <+: startup.setUp) (bus : after.bus = host.bus)
      (ticker : after.ticker = host.ticker) :
      Exchange.Starts startup ⟨.start host, deeds, .started after (.error error)⟩

/-- Neither the bridge is installed nor the scheduler attached while setting up, and nothing is
dispatched. -/
theorem Startup.not_mem_setUp (startup : Startup) :
    Deed.install ∉ startup.setUp ∧ Deed.attach ∉ startup.setUp
      ∧ ∀ event, Deed.dispatch event ∉ startup.setUp := by
  simp [Startup.setUp]

/-! ### One exchange -/

section Exchanges

variable {startup next : Startup} {exchange : Exchange}

/-- Whatever is asked, only the registrar changes. -/
theorem Exchanged.settings (exchanged : Exchanged startup exchange next) :
    next = { startup with registrar := next.registrar } := by
  cases exchanged <;> rfl

/-- With an invalid configuration an open registrar stays open. -/
theorem Exchanged.invalid {cause : ConfigError} (exchanged : Exchanged startup exchange next)
    (invalid : startup.config.validate = .error cause) (isOpen : startup.isStarted = false) :
    (exchange.IsCall ∨ exchange.TurnsDown cause) ∧ next.isStarted = false := by
  cases exchanged with
  | call => exact ⟨Or.inl ⟨_, _, rfl⟩, rfl⟩
  | refuseCall isClosed =>
      rw [Startup.isStarted, isClosed] at isOpen
      cases isOpen
  | turnDown other =>
      cases invalid.symm.trans other
      exact ⟨Or.inr ⟨_, rfl⟩, isOpen⟩
  | refuseStart valid => cases invalid.symm.trans valid
  | start valid => cases invalid.symm.trans valid
  | fail valid => cases invalid.symm.trans valid

/-- Once closed, nothing is done and nothing changes. -/
theorem Exchanged.closed (exchanged : Exchanged startup exchange next)
    (valid : startup.config.validate = .ok ()) (isClosed : startup.isStarted = true) :
    exchange.IsRefusal ∧ next = startup := by
  rw [Startup.isStarted, Option.isNone_iff_eq_none] at isClosed
  cases exchanged with
  | call isOpen => cases isClosed.symm.trans isOpen
  | refuseCall => exact ⟨Or.inl ⟨_, rfl⟩, rfl⟩
  | turnDown invalid => cases valid.symm.trans invalid
  | refuseStart => exact ⟨Or.inr ⟨_, rfl⟩, rfl⟩
  | start _ isOpen => cases isClosed.symm.trans isOpen
  | fail _ isOpen => cases isClosed.symm.trans isOpen

/-- While the registrar is open an act is called, or a start closes it. -/
theorem Exchanged.opened (exchanged : Exchanged startup exchange next)
    (valid : startup.config.validate = .ok ()) (isOpen : startup.isStarted = false) :
    (exchange.IsCall ∧ next.isStarted = false)
      ∨ (exchange.Starts startup ∧ next.isStarted = true) := by
  cases exchanged with
  | call => exact Or.inl ⟨⟨_, _, rfl⟩, rfl⟩
  | refuseCall isClosed =>
      rw [Startup.isStarted, isClosed] at isOpen
      cases isOpen
  | turnDown invalid => cases valid.symm.trans invalid
  | refuseStart _ isClosed =>
      rw [Startup.isStarted, isClosed] at isOpen
      cases isOpen
  | start => exact Or.inr ⟨.up, rfl⟩
  | fail _ _ begun does =>
      obtain ⟨notInstalled, notAttached, -⟩ := startup.not_mem_setUp
      obtain ⟨bus, ticker⟩ :=
        does.frame (fun listed => notInstalled (begun.subset listed))
          (fun listed => notAttached (begun.subset listed))
      exact Or.inr ⟨.fails begun bus ticker, rfl⟩

/-- What a start does depends on the registrar in nothing that is planned. -/
theorem Exchange.Starts.of_settings {registrar : Option Registrar}
    (starts : exchange.Starts { startup with registrar }) : exchange.Starts startup := by
  cases starts with
  | up => exact .up
  | fails begun bus ticker => exact .fails begun bus ticker

end Exchanges

/-! ### All exchanges -/

namespace Startup

section Runs

variable {startup final : Startup} {requests : List Request} {exchanges : List Exchange}

/-- With an invalid configuration acts are called and starts turned down, for as long as is asked. -/
theorem Serves.invalid {cause : ConfigError} (serves : startup.Serves requests exchanges final)
    (invalid : startup.config.validate = .error cause) (isOpen : startup.isStarted = false) :
    (∀ exchange ∈ exchanges, exchange.IsCall ∨ exchange.TurnsDown cause)
      ∧ final.isStarted = false := by
  induction serves with
  | done => exact ⟨List.forall_mem_nil _, isOpen⟩
  | next exchanged _ ih =>
      obtain ⟨here, stillOpen⟩ := exchanged.invalid invalid isOpen
      rw [exchanged.settings] at ih
      obtain ⟨later, ends⟩ := ih invalid stillOpen
      exact ⟨List.forall_mem_cons.2 ⟨here, later⟩, ends⟩

/-- Once closed, every request is refused. -/
theorem Serves.closed (serves : startup.Serves requests exchanges final)
    (valid : startup.config.validate = .ok ()) (isClosed : startup.isStarted = true) :
    (∀ exchange ∈ exchanges, exchange.IsRefusal) ∧ final = startup := by
  induction serves with
  | done => exact ⟨List.forall_mem_nil _, rfl⟩
  | next exchanged _ ih =>
      obtain ⟨here, same⟩ := exchanged.closed valid isClosed
      rw [same] at ih
      obtain ⟨later, ends⟩ := ih valid isClosed
      exact ⟨List.forall_mem_cons.2 ⟨here, later⟩, ends⟩

/-- With a valid configuration acts are called up to the first start, and all is refused from there on. -/
theorem Serves.opened (serves : startup.Serves requests exchanges final)
    (valid : startup.config.validate = .ok ()) (isOpen : startup.isStarted = false) :
    ((∀ exchange ∈ exchanges, exchange.IsCall) ∧ final.isStarted = false)
      ∨ ∃ calls first refusals, exchanges = calls ++ first :: refusals
        ∧ (∀ exchange ∈ calls, exchange.IsCall) ∧ first.Starts startup
        ∧ (∀ exchange ∈ refusals, exchange.IsRefusal) ∧ final.isStarted = true := by
  induction serves with
  | done => exact Or.inl ⟨List.forall_mem_nil _, isOpen⟩
  | @next startup final request rest deeds later exchanged serves ih =>
      have settings := exchanged.settings
      rcases exchanged.opened valid isOpen with ⟨call, stillOpen⟩ | ⟨starts, nowClosed⟩
      · have stillValid : (startup.serve request).1.config.validate = .ok () := by
          rw [settings]
          exact valid
        rcases ih stillValid stillOpen with ⟨calls, ends⟩ | ⟨calls, first, refusals, rfl, before, starts, after, ends⟩
        · exact Or.inl ⟨List.forall_mem_cons.2 ⟨call, calls⟩, ends⟩
        · rw [settings] at starts
          exact Or.inr ⟨_ :: calls, first, refusals, rfl, List.forall_mem_cons.2 ⟨call, before⟩,
            starts.of_settings, after, ends⟩
      · have stillValid : (startup.serve request).1.config.validate = .ok () := by
          rw [settings]
          exact valid
        obtain ⟨refusals, same⟩ := serves.closed stillValid nowClosed
        exact Or.inr ⟨[], _, later, rfl, List.forall_mem_nil _, starts, refusals, same ▸ nowClosed⟩

end Runs

/-- A new startup serves any requests. With an invalid configuration it turns every start down and goes on
to register. With a valid one it registers up to the first start, and refuses all later requests with
nothing done. The first start does all that is planned, in order, or breaks off while setting up, with the
bus and the ticker as they were. -/
theorem start_one_shot (config : Config) (extensions : List Extension)
    (scripts : List (String × String)) (requests : List Request) :
    ∃ exchanges final, ({ config, extensions, scripts } : Startup).Serves requests exchanges final
      ∧ (∀ cause, config.validate = .error cause →
          (∀ exchange ∈ exchanges, exchange.IsCall ∨ exchange.TurnsDown cause)
            ∧ final.isStarted = false)
      ∧ (config.validate = .ok () →
          ((∀ exchange ∈ exchanges, exchange.IsCall) ∧ final.isStarted = false)
          ∨ ∃ calls first refusals, exchanges = calls ++ first :: refusals
            ∧ (∀ exchange ∈ calls, exchange.IsCall)
            ∧ first.Starts { config, extensions, scripts }
            ∧ (∀ exchange ∈ refusals, exchange.IsRefusal) ∧ final.isStarted = true) := by
  obtain ⟨exchanges, final, serves⟩ := exists_serves { config, extensions, scripts } requests
  exact ⟨exchanges, final, serves, fun _ invalid => serves.invalid invalid rfl,
    fun valid => serves.opened valid rfl⟩

end Startup

end ScriptBridge
