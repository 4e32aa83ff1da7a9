import DebugWire.Part
import DebugWire.Session.Connection
import DebugWire.Session.Waiting
import DebugWire.Settings.Load
import DebugWire.Settings.LogFilter
import DebugWire.Target.InMemory
import DebugWire.Proofs.Registry.Arena
import DebugWire.Proofs.Registry.Invariant
import DebugWire.Proofs.Registry.Effect
import DebugWire.Proofs.Registry.Evolution
import DebugWire.Proofs.Registry.Fate
import DebugWire.Proofs.Registry.Run
import DebugWire.Proofs.Registry.Lifecycle
import DebugWire.Proofs.Registry.Sweeping
import DebugWire.Proofs.Registry.Recycling
import DebugWire.Proofs.Registry.Handing
import DebugWire.Proofs.Registry.References
import DebugWire.Proofs.Registry.Holding
import DebugWire.Proofs.Registry.Growth
import DebugWire.Proofs.Bytes.Cursor
import DebugWire.Proofs.Registry.Yield
import DebugWire.Proofs.Session.Calls
import DebugWire.Proofs.Session.Answers
import DebugWire.Proofs.Session.Report
import DebugWire.Proofs.Session.Course
import DebugWire.Proofs.Session.FrameLife
import DebugWire.Proofs.Session.Failure
import DebugWire.Proofs.Session.Malformed
import DebugWire.Proofs.Session.Ledger
import DebugWire.Proofs.Session.Connection
import DebugWire.Proofs.Session.Keeping
import DebugWire.Proofs.Session.Settling
import DebugWire.Proofs.Session.Meeting
import DebugWire.Proofs.Suspension
import DebugWire.Proofs.Session.FrameHold
import DebugWire.Proofs.Session.Unattended
import DebugWire.Proofs.Session.Outgoing
import DebugWire.Proofs.Session.Attended
import DebugWire.Proofs.Session.Farewell
import DebugWire.Proofs.Target.InMemory
import DebugWire.Proofs.Session.Answered
import DebugWire.Proofs.Session.Inquiry
import DebugWire.Proofs.Session.Decoding
import DebugWire.Proofs.Stream.Frame
import DebugWire.Proofs.Stream.Script
import DebugWire.Proofs.Stream.Written
import DebugWire.Proofs.Stream.Format
import DebugWire.Proofs.Event.History
import DebugWire.Proofs.Event.Repeats
import DebugWire.Proofs.Event.Numbering
import DebugWire.Proofs.Bytes.Exact
import DebugWire.Proofs.Registry.ReadBack
import DebugWire.Proofs.Registry.Position
import DebugWire.Proofs.Session.Serving
import DebugWire.Proofs.Session.Position
import DebugWire.Proofs.Bytes.Parsing
import DebugWire.Proofs.Event.Spelling
import DebugWire.Proofs.Session.Installing
import DebugWire.Proofs.Target.Supertypes
import DebugWire.Proofs.Registry.Occupancy
import DebugWire.Proofs.Registry.Collected
import DebugWire.Proofs.Registry.Settled
import DebugWire.Proofs.Event.Pattern
import DebugWire.Proofs.Session.Region
import DebugWire.Proofs.Session.Stack
import DebugWire.Proofs.Session.Listing
import DebugWire.Proofs.Bytes.Text
import DebugWire.Proofs.Bytes.Parts
import DebugWire.Proofs.Suspension.Counters
import DebugWire.Proofs.Signature
import DebugWire.Proofs.Registry.Blocks
import DebugWire.Proofs.Session.Attended
