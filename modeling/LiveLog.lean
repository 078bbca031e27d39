import LiveLog.Main
import LiveLog.Proofs.Text.Utf8
import LiveLog.Proofs.EventStream.Chunking
import LiveLog.Proofs.EventStream.Framing
import LiveLog.Proofs.EventStream.Payloads
import LiveLog.Proofs.Buffer.View
import LiveLog.Proofs.Connection.FinalFlush
import LiveLog.Proofs.Connection.Protocol
import LiveLog.Proofs.Viewer.Inputs
import LiveLog.Proofs.Coordinator.Service
import LiveLog.Proofs.Coordinator.Pairing
import LiveLog.Proofs.Coordinator.Alone
import LiveLog.Proofs.Coordinator.Isolation
import LiveLog.Proofs.Coordinator.Feeding
import LiveLog.Proofs.Coordinator.Closing
import LiveLog.Proofs.Viewer.Coverage
import LiveLog.Proofs.Viewer.Operations
import LiveLog.Proofs.Viewer.Settling
import LiveLog.Proofs.Viewer.OpenedLine
import LiveLog.Proofs.Viewer.Awaiting
import LiveLog.Proofs.Viewer.Contents
import LiveLog.Proofs.Connection.Timeline
import LiveLog.Proofs.Connection.Waiting
import LiveLog.Proofs.Connection.Punctuality
import LiveLog.Proofs.Connection.Retrying
import LiveLog.Proofs.Rehearsal.Settlement
import LiveLog.Proofs.Coordinator.Banner
import LiveLog.Proofs.Viewer.Offset
import LiveLog.Proofs.Viewer.Reading
import LiveLog.Proofs.Viewer.Stepping
import LiveLog.Proofs.Text.Offsets
import LiveLog.Proofs.SearchBox.Editing
import LiveLog.Proofs.Host.SearchInStep
import LiveLog.Proofs.Host.FollowedPane
import LiveLog.Proofs.Viewport.Geometry
import LiveLog.Proofs.Text.Decimal
import LiveLog.Proofs.DeepLink.RoundTrip
import LiveLog.Proofs.Highlight
import LiveLog.Proofs.Filter.Searching
import LiveLog.Proofs.Timestamp.Digits
import LiveLog.Proofs.Timestamp.Written
import LiveLog.Proofs.Timestamp.Rendered
import LiveLog.Proofs.Json
import LiveLog.Proofs.Record.Decoding
