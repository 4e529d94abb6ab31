import SessionBridge.Bus.Scripted
import SessionBridge.Control.Run
import SessionBridge.Host.FileTree
import SessionBridge.Host.Scripted
import SessionBridge.Json.Records
import SessionBridge.Json.Text
import SessionBridge.Main
import SessionBridge.Proofs.Bridge.Delivery
import SessionBridge.Proofs.Control.Native
import SessionBridge.Proofs.Control.Operation
import SessionBridge.Proofs.Control.Coupling
import SessionBridge.Proofs.Bus.Return
import SessionBridge.Proofs.Bus.Table
import SessionBridge.Proofs.Control.Stage
import SessionBridge.Proofs.Control.Account
import SessionBridge.Proofs.Control.Lifetime
import SessionBridge.Proofs.Control.Custody
import SessionBridge.Proofs.Session.Chronicle
import SessionBridge.Proofs.Bridge.Materialization
import SessionBridge.Proofs.Bridge.Display
import SessionBridge.Proofs.Control.Transparency
import SessionBridge.Proofs.Control.Rejection
import SessionBridge.Proofs.Control.Protocol
import SessionBridge.Proofs.Control.Standing
import SessionBridge.Proofs.Bridge.Steps
import SessionBridge.Proofs.Control.Succession
import SessionBridge.Proofs.Control.Agreement
import SessionBridge.Proofs.Bridge.Replica
import SessionBridge.Proofs.Control.Refusal
import SessionBridge.Proofs.Control.Replay
import SessionBridge.Proofs.Control.Lasting
import SessionBridge.Proofs.Bus.Posting
import SessionBridge.Proofs.Control.Dispatch
import SessionBridge.Proofs.Control.Outbox
import SessionBridge.Proofs.Concurrent.Interleaving
import SessionBridge.Proofs.Concurrent.Pool
import SessionBridge.Proofs.Registry.Order
import SessionBridge.Proofs.Control.Membership
import SessionBridge.Proofs.Transcript.Growth
import SessionBridge.Proofs.Control.Archive
import SessionBridge.Proofs.Concurrent.Ledger
import SessionBridge.Proofs.Concurrent.Progress
import SessionBridge.Proofs.Concurrent.Gathering
import SessionBridge.Proofs.Host.LogPath
import SessionBridge.Proofs.Host.Placement
import SessionBridge.Proofs.Host.Passage
import SessionBridge.Proofs.Json.RoundTrip
import SessionBridge.Proofs.Bridge.Hearing
import SessionBridge.Proofs.Control.Turn
import SessionBridge.Proofs.Control.Balance
import SessionBridge.Proofs.Control.Abort
import SessionBridge.Proofs.Control.Parting
import SessionBridge.Proofs.Bridge.Containment
import SessionBridge.Proofs.Bridge.Audience
import SessionBridge.Proofs.Control.Attendance
import SessionBridge.Proofs.Bridge.Coverage
import SessionBridge.Proofs.Control.Resync
import SessionBridge.Proofs.Bridge.Acceptance
import SessionBridge.Proofs.Control.Meanwhile
import SessionBridge.Proofs.Text.Encoding
import SessionBridge.Proofs.Text.Pieces
import SessionBridge.Proofs.Text.Scan
import SessionBridge.Proofs.Text.Boundary
import SessionBridge.Proofs.Bridge.Decoding
import SessionBridge.Proofs.Bridge.Ways
import SessionBridge.Proofs.Host.Splitting
import SessionBridge.Proofs.Host.Spelling
import SessionBridge.Proofs.Session.Next
import SessionBridge.Proofs.Session.Trail
import SessionBridge.Proofs.Host.SetUp
import SessionBridge.Proofs.Host.Detachment
import SessionBridge.Proofs.Host.ExitStatus
import SessionBridge.Proofs.Text.Quoting
import SessionBridge.Proofs.Session.Wording
import SessionBridge.Proofs.Text.Numeral
import SessionBridge.Proofs.Calendar.Succession
import SessionBridge.Proofs.Calendar.Stamp
import SessionBridge.Proofs.Host.LogName
import SessionBridge.Proofs.Bus.History
import SessionBridge.Proofs.Bridge.Narrowing
import SessionBridge.Proofs.Host.Joining
import SessionBridge.Proofs.Bridge.Rendering
