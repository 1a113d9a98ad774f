import ScriptBridge.Config.Toml
import ScriptBridge.FieldBag.Json
import ScriptBridge.Probe.Callbacks
import ScriptBridge.Probe.Session
import ScriptBridge.Probe.Catalogue
import ScriptBridge.Probe.Clock
import ScriptBridge.Proofs.Bridge.Installation
import ScriptBridge.Proofs.Builtins.Atomicity
import ScriptBridge.Proofs.Builtins.Messages
import ScriptBridge.Proofs.Parsing.Binding
import ScriptBridge.Proofs.Parsing.Depth
import ScriptBridge.Proofs.Parsing.Extension
import ScriptBridge.Proofs.Pattern.OwnText
import ScriptBridge.Proofs.Registration.NoTrace
import ScriptBridge.Proofs.Registration.Sealing
import ScriptBridge.Proofs.Startup.Commands
import ScriptBridge.Proofs.Startup.Requests
import ScriptBridge.Proofs.Scheduler.Deadlines
import ScriptBridge.Proofs.Scheduler.LifeCycle
import ScriptBridge.Proofs.Scheduler.Timeline
import ScriptBridge.Proofs.Script.Accounting
import ScriptBridge.Proofs.Script.Comments
import ScriptBridge.Proofs.Script.Composition
import ScriptBridge.Proofs.FieldBag.RoundTrip
import ScriptBridge.Proofs.Builtins.EntityNames
import ScriptBridge.Proofs.Wrapper.BreadthFirst
import ScriptBridge.Proofs.Token.Partition
import ScriptBridge.Proofs.Token.Separation
import ScriptBridge.Proofs.Bus.Snapshots
import ScriptBridge.Proofs.FieldBag.Puts
import ScriptBridge.Proofs.Builtins.Persistence
import ScriptBridge.Proofs.Registration.TypeNames
import ScriptBridge.Proofs.Config.Rereading
import ScriptBridge.Proofs.Expressions.EventValues
import ScriptBridge.Proofs.Parsing.SettledSlots
import ScriptBridge.Proofs.Token.Printing
