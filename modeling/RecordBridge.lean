import RecordBridge.Command.Run
import RecordBridge.Site.Installed
import RecordBridge.Main
import RecordBridge.Proofs.Custody.Interleaving
import RecordBridge.Proofs.Record.NormalForm
import RecordBridge.Proofs.Record.Truncation
import RecordBridge.Proofs.Bridge.Scopes
import RecordBridge.Proofs.Command.Runs
import RecordBridge.Proofs.Bridge.Hashing
import RecordBridge.Proofs.Bridge.Filling
import RecordBridge.Proofs.Custody.Slot
import RecordBridge.Proofs.Bridge.Serving
import RecordBridge.Proofs.Bridge.Starting
import RecordBridge.Proofs.Bridge.Validity
import RecordBridge.Proofs.Bridge.Conversion
import RecordBridge.Proofs.Record.Isolation
import RecordBridge.Proofs.Record.Displacement
import RecordBridge.Proofs.Record.Naming
import RecordBridge.Proofs.Record.Keeping
import RecordBridge.Proofs.Custody.Acquiring
import RecordBridge.Proofs.Custody.Sending
import RecordBridge.Proofs.Command.Passing
import RecordBridge.Proofs.Record.Queue
import RecordBridge.Proofs.Command.Endings
import RecordBridge.Proofs.Command.Records
import RecordBridge.Proofs.Guest.Scripts
import RecordBridge.Proofs.Bridge.Setups
import RecordBridge.Proofs.Record.Misreading
import RecordBridge.Proofs.Record.Settings
