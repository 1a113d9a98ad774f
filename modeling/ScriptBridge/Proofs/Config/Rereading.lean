import ScriptBridge.Proofs.Config.Documents
/-!
Which configurations survive being written down. A document holds whole numbers of 64 bits with sign, but an
interval may have 64 bits without. Main statement, for every way to write documents that is as it should be:
a configuration that is valid is written and read back as it was just if its interval is below the half of
that range; any longer one can neither be written nor be read from any document at all, though it is valid.
-/

namespace ScriptBridge.Config

/-! ### Writing -/

section

variable {config : Config}

theorem plain_settings : config.settings.Plain where
  bare := by simp [settings, Document.isBare]
  once := by simp [settings]

/-- Only the interval may be out of range. -/
theorem inRange_settings (fits : config.tickInterval.toNat < 2 ^ 63) :
    ∀ setting ∈ config.settings, setting.2.InRange := by
  simp only [settings, List.forall_mem_cons, Scalar.InRange]
  exact ⟨⟨by omega, by omega⟩, trivial, trivial, trivial, trivial, by simp⟩

variable {write : Document.Writer}

/-- The settings of a configuration are written and read, if the interval is short enough. -/
theorem exists_toToml (lawful : write.Lawful) (fits : config.tickInterval.toNat < 2 ^ 63) :
    ∃ text, config.toToml write = .ok text ∧ Document.read? text = some config.settings :=
  lawful.reads plain_settings (inRange_settings fits)

/-- Nothing but an interval of 64 bits keeps a configuration from being written. -/
theorem toToml_eq_error_iff (lawful : write.Lawful) {error : WriteError} :
    config.toToml write = .error error
      ↔ error = .outOfRange "u64" ∧ 2 ^ 63 ≤ config.tickInterval.toNat := by
  rcases Nat.lt_or_ge config.tickInterval.toNat (2 ^ 63) with fits | long
  · obtain ⟨text, writes, -⟩ := exists_toToml lawful fits
    rw [writes]
    exact ⟨nofun, fun ⟨_, long⟩ => absurd fits (Nat.not_lt.2 long)⟩
  · have refused : config.toToml write = .error (.outOfRange "u64") :=
      lawful.refuses List.mem_cons_self long
    rw [refused]
    constructor
    · rintro ⟨⟩
      exact ⟨rfl, long⟩
    · rintro ⟨rfl, -⟩
      rfl

/-- The settings of a configuration are read in what is written of it. -/
theorem read?_toToml (lawful : write.Lawful) {text : String} (written : config.toToml write = .ok text) :
    Document.read? text = some config.settings := by
  have fits : config.tickInterval.toNat < 2 ^ 63 := by
    refine Nat.lt_of_not_le fun long => ?_
    have refused : config.toToml write = .error (.outOfRange "u64") :=
      (toToml_eq_error_iff lawful).2 ⟨rfl, long⟩
    cases written.symm.trans refused
  obtain ⟨other, writes, reads⟩ := exists_toToml lawful fits
  cases written.symm.trans writes
  exact reads

/-! ### Reading -/

theorem ofDocument?_settings (config : Config) : ofDocument? config.settings = some config := by
  have interval : UInt64.ofNat config.tickInterval.toNat = config.tickInterval := UInt64.ofNat_toNat
  rw [ofDocument?, if_pos plain_settings.once]
  simp only [settings, set?, List.foldlM_cons, List.foldlM_nil, interval, Int.toNat_natCast]
  rw [if_neg (by omega)]
  rfl

/-- Whatever text sets what a configuration sets is read as it, if it is valid. -/
theorem ofToml_of_settings {source : String} (reads : Document.read? source = some config.settings) :
    ofToml source = config.validate.map fun () => config := by
  rw [ofToml, reads, Option.bind_some, ofDocument?_settings]

/-- A setting does not make the interval longer than a whole number may be. -/
theorem interval_lt_of_set? {changed : Config} {name : String} {value : Scalar}
    (short : config.tickInterval.toNat < 2 ^ 63) (inRange : value.InRange)
    (made : config.set? name value = some changed) : changed.tickInterval.toNat < 2 ^ 63 := by
  unfold set? at made
  split at made
  · next number =>
      split at made
      · cases made
      · cases made
        obtain ⟨-, small⟩ := inRange
        show (UInt64.ofNat number.toNat).toNat < 2 ^ 63
        rw [UInt64.toNat_ofNat']
        omega
  · cases made; exact short
  · cases made; exact short
  · cases made; exact short
  · cases made; exact short
  · cases made

/-- Nor do the settings of a document. -/
theorem interval_lt_of_foldlM {document : Document} {read : Config}
    (short : config.tickInterval.toNat < 2 ^ 63) (inRange : ∀ setting ∈ document, setting.2.InRange)
    (made : document.foldlM (fun config setting => config.set? setting.1 setting.2) config = some read) :
    read.tickInterval.toNat < 2 ^ 63 := by
  induction document generalizing config with
  | nil =>
      cases made
      exact short
  | cons setting document ih =>
      obtain ⟨here, others⟩ := List.forall_mem_cons.1 inRange
      rw [List.foldlM_cons] at made
      obtain ⟨changed, first, made⟩ := Option.bind_eq_some_iff.1 made
      exact ih (interval_lt_of_set? short here first) others made

/-- What is read is valid, and its interval is a whole number of 64 bits with sign. -/
theorem bounds_of_ofToml {source : String} {read : Config} (reads : ofToml source = .ok read) :
    read.validate = .ok () ∧ read.tickInterval.toNat < 2 ^ 63 := by
  rw [ofToml] at reads
  split at reads
  · cases reads
  · next config made =>
      obtain ⟨document, parsed, made⟩ := Option.bind_eq_some_iff.1 made
      cases valid : config.validate with
      | error error => rw [valid] at reads; cases reads
      | ok =>
          rw [valid] at reads
          cases reads
          refine ⟨valid, ?_⟩
          rw [ofDocument?] at made
          split at made
          · exact interval_lt_of_foldlM (by decide) (Document.inRange_read? parsed) made
          · cases made

/-- What is written is read as the configuration just if it is valid. -/
theorem rereads_eq {write : Document.Writer} (lawful : write.Lawful) (config : Config) :
    config.rereads write
      = if config.tickInterval.toNat < 2 ^ 63 then .ok config.validate.isOk
        else .error (.outOfRange "u64") := by
  split
  · next fits =>
      obtain ⟨text, writes, reads⟩ := exists_toToml lawful fits
      rw [rereads, writes]
      simp only [Except.map, ofToml_of_settings reads]
      cases config.validate with
      | error error => rfl
      | ok => exact congrArg Except.ok (beq_self_eq_true config)
  · next long =>
      have refused : config.toToml write = .error (.outOfRange "u64") :=
        (toToml_eq_error_iff lawful).2 ⟨rfl, Nat.not_lt.1 long⟩
      rw [rereads, refused]
      rfl

end

/-- Which configurations are read back as they were, however documents are written. One is written and read
back as itself just if it is valid and its interval is a whole number of 63 bits, whatever its token is; and
just these are read from any document at all. A longer interval is all that keeps a configuration from being
written, and is then the error. What is written sets the five settings; and any document that does so, however
it spells them, is read as the configuration, or is refused for what makes it invalid. So reading back what was
written ends in that error for half of the intervals, and for the others it tells what is valid. -/
theorem reread_iff {write : Document.Writer} (lawful : write.Lawful) (config : Config) :
    ((∃ text, config.toToml write = .ok text ∧ ofToml text = .ok config)
      ↔ config.validate = .ok () ∧ config.tickInterval.toNat < 2 ^ 63)
    ∧ ((∃ source, ofToml source = .ok config)
      ↔ config.validate = .ok () ∧ config.tickInterval.toNat < 2 ^ 63)
    ∧ (∀ error, config.toToml write = .error error
      ↔ error = .outOfRange "u64" ∧ 2 ^ 63 ≤ config.tickInterval.toNat)
    ∧ (∀ text, config.toToml write = .ok text → Document.read? text = some config.settings)
    ∧ (∀ source, Document.read? source = some config.settings →
        ofToml source = config.validate.map fun () => config)
    ∧ config.rereads write
      = if config.tickInterval.toNat < 2 ^ 63 then .ok config.validate.isOk
        else .error (.outOfRange "u64") := by
  have rereads (valid : config.validate = .ok ()) (fits : config.tickInterval.toNat < 2 ^ 63) :
      ∃ text, config.toToml write = .ok text ∧ ofToml text = .ok config := by
    obtain ⟨text, writes, reads⟩ := exists_toToml lawful fits
    refine ⟨text, writes, ?_⟩
    rw [ofToml_of_settings reads, valid]
    rfl
  refine ⟨⟨?_, ?_⟩, ⟨?_, ?_⟩, fun _ => toToml_eq_error_iff lawful, fun _ => read?_toToml lawful,
    fun _ => ofToml_of_settings, rereads_eq lawful config⟩
  · rintro ⟨text, -, reads⟩
    exact bounds_of_ofToml reads
  · rintro ⟨valid, fits⟩
    exact rereads valid fits
  · rintro ⟨source, reads⟩
    exact bounds_of_ofToml reads
  · rintro ⟨valid, fits⟩
    obtain ⟨text, -, reads⟩ := rereads valid fits
    exact ⟨text, reads⟩

/-- Half of the intervals cannot be written, though nothing else is wrong with them. -/
example : let config : Config := { tickInterval := 2 ^ 63 }
    config.validate.isOk = true ∧ (config.toToml Document.write).isOk = false := by
  decide +kernel

/-- A configuration whose token needs to be escaped. -/
def bellConfig : Config where
  tickInterval := 25
  effectCommands := true
  commandToken := " \"\x07\\"
  logsUnbridged := false

/-- A document that spells its settings in other ways than those in which they are written. -/
def bellDocument : String :=
  "tick_interval_ms = 0x19 # quick\n\n'enable_effect_commands' = true\r\n"
    ++ "effect_command_token = \"\"\"\n \\u0022\\u0007\\\\\"\"\"\n"
    ++ "log_unbridged_events=false\nentity_names_in_scripts = false"

/-- The configuration is read from this document, and from what is written of it one setting a line. -/
theorem reread_iff_bell :
    Document.Writer.Lawful Document.write
      ∧ Document.read? bellDocument = some bellConfig.settings ∧ ofToml bellDocument = .ok bellConfig
      ∧ (∃ text, bellConfig.toToml Document.write = .ok text
        ∧ Document.read? text = some bellConfig.settings ∧ ofToml text = .ok bellConfig)
      ∧ bellConfig.rereads Document.write = .ok true := by
  obtain ⟨back, -, -, written, spelled, rereads⟩ := reread_iff Document.lawful_write bellConfig
  have spells : Document.read? bellDocument = some bellConfig.settings := by decide +kernel
  have valid : bellConfig.validate = .ok () := by
    rw [validate, if_neg (by decide), if_neg (by decide +kernel)]
  obtain ⟨text, writes, reads⟩ := back.2 ⟨valid, by decide⟩
  refine ⟨Document.lawful_write, spells, ?_, ⟨text, writes, written text writes, reads⟩, ?_⟩
  · rw [spelled _ spells, valid]
    rfl
  · rw [rereads, valid]
    rfl

end ScriptBridge.Config
