import ScriptBridge.Bus
import ScriptBridge.Context
/-!
The bridge from native events to script events. Installing it on a bus subscribes one callback for
every native type that some wrapper wraps; the earliest registered wrapper owns the type. The callback
builds a fresh wrapper around each event it gets and dispatches that.
-/

namespace ScriptBridge

/-- What one installation did: the native types newly subscribed, the number of those subscribed
before, the declared events, and the wrappers whose native type belongs to another one. -/
structure InstallReport where
  installed : List TypeKey := []
  alreadyInstalled : Nat := 0
  unbridged : List TypeKey := []
  conflicts : List TypeKey := []
deriving DecidableEq, Repr

/-- A bridge into a context: the owner of each native type that was subscribed, and the wrappers that
were warned of. -/
structure Bridge where
  context : BridgeContext
  owners : Table TypeKey TypeKey := {}
  reported : List TypeKey := []
  warnsUnbridged : Bool := true

/-- The bus on which native events reach the scene. -/
abbrev NativeBus := Bus NativeEvent Scene

/-- A bus with the scene its callbacks act on. -/
abbrev NativeRun := BusRun NativeEvent Scene

/-- An installation under way. -/
structure Installing where
  bridge : Bridge
  run : NativeRun
  report : InstallReport := {}

namespace Bridge

/-- Builds a wrapper around a native event and dispatches it; a constructor that does not take the
event is warned of. -/
def deliver (context : BridgeContext) (wrapper : TypeKey) (construct : Constructor)
    (event : NativeEvent) (scene : Scene) : Scene :=
  match construct event with
  | none => Journaled.warn (.rejected wrapper) scene
  | some wrapped => (context.dispatch wrapped scene).state

/-- The callback that bridges native events to a wrapper. -/
def callback (context : BridgeContext) (wrapper : TypeKey) (construct : Constructor)
    (event : NativeEvent) : Reaction NativeEvent Scene :=
  .act (deliver context wrapper construct event) .done

/-- Writes a warning about a wrapper, unless there was one before. -/
def warnOnce (current : Installing) (wrapper : TypeKey) (enabled : Bool) (warning : Warning) :
    Installing :=
  if current.bridge.reported.contains wrapper then current
  else
    let state := current.run.state
    { current with
      bridge := { current.bridge with reported := wrapper :: current.bridge.reported }
      run :=
        { current.run with state := if enabled then Journaled.warn warning state else state } }

/-- Installs what one entry needs. -/
def installEntry (current : Installing) (entry : WrapperEntry) : Installing :=
  let wrapper := entry.wrapper
  match entry.source with
  | none =>
    let next := warnOnce current wrapper current.bridge.warnsUnbridged (.unbridged entry.name)
    { next with report := { next.report with unbridged := next.report.unbridged ++ [wrapper] } }
  | some source =>
    match current.bridge.owners.get? source.native with
    | some owner =>
      if owner = wrapper then
        { current with
          report :=
            { current.report with alreadyInstalled := current.report.alreadyInstalled + 1 } }
      else
        let next :=
          warnOnce current wrapper true (.alreadyBridged entry.name source.native owner)
        { next with report := { next.report with conflicts := next.report.conflicts ++ [wrapper] } }
    | none =>
      let bridge := current.bridge
      let report := current.report
      { bridge := { bridge with owners := bridge.owners.insert source.native wrapper }
        run :=
          { current.run with
            bus :=
              current.run.bus.subscribe source.native
                (callback bridge.context wrapper source.construct) }
        report := { report with installed := report.installed ++ [source.native] } }

/-- Installs the bridge on a bus, entry by entry. -/
def install (bridge : Bridge) (run : NativeRun) : Installing :=
  bridge.context.registries.wrappers.entries.foldl installEntry { bridge, run }

/-- Whether a native type is subscribed. -/
def isInstalled (bridge : Bridge) (native : TypeKey) : Bool :=
  bridge.owners.contains native

/-- The number of native types that are subscribed. -/
def installedCount (bridge : Bridge) : Nat :=
  bridge.owners.size

/-- The diagnostic text of a bridge. -/
def debugText (bridge : Bridge) : String :=
  "Bridge \x7b installed: " ++ toString bridge.installedCount ++ ", warn_unbridged: "
    ++ toString bridge.warnsUnbridged ++ " \x7d"

end Bridge

end ScriptBridge
