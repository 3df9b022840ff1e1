import SpaceGateway.Buffer
import SpaceGateway.Bytes
import SpaceGateway.Client
import SpaceGateway.Client.Call
import SpaceGateway.Client.Desk
import SpaceGateway.Codec
import SpaceGateway.Codec.Framed
import SpaceGateway.Config
import SpaceGateway.Confirmation
import SpaceGateway.Decimal.Layout
import SpaceGateway.Decimal.Shortest
import SpaceGateway.Error
import SpaceGateway.Event
import SpaceGateway.Exchange
import SpaceGateway.Executor
import SpaceGateway.Gateway
import SpaceGateway.Identity
import SpaceGateway.Json.Decode
import SpaceGateway.Json.Fault
import SpaceGateway.Json.Node
import SpaceGateway.Json.Number
import SpaceGateway.Json.Quoted
import SpaceGateway.Json.Record
import SpaceGateway.Json.Tagged
import SpaceGateway.Json.Variant
import SpaceGateway.Json.Write
import SpaceGateway.Log
import SpaceGateway.Log.Filter
import SpaceGateway.Log.Pattern
import SpaceGateway.Log.Pattern.Shape
import SpaceGateway.Log.Rule
import SpaceGateway.Message
import SpaceGateway.Message.Form
import SpaceGateway.Network
import SpaceGateway.Notice
import SpaceGateway.Operation
import SpaceGateway.Operation.Form
import SpaceGateway.Pool
import SpaceGateway.Registry
import SpaceGateway.Rehearsal.Broker
import SpaceGateway.Rehearsal.Chunks
import SpaceGateway.Rehearsal.Script
import SpaceGateway.Reply
import SpaceGateway.Reply.Form
import SpaceGateway.Server
import SpaceGateway.Server.Info
import SpaceGateway.Session
import SpaceGateway.Task
import SpaceGateway.Text.Characters
import SpaceGateway.Text.Slice
import SpaceGateway.Proofs.Arrival
import SpaceGateway.Proofs.Literals
import SpaceGateway.Proofs.Numerals
import SpaceGateway.Proofs.Grammar
import SpaceGateway.Proofs.Reading
import SpaceGateway.Proofs.Utf8
import SpaceGateway.Proofs.Presentation
import SpaceGateway.Proofs.Records
import SpaceGateway.Proofs.MessageText
import SpaceGateway.Proofs.OperationText
import SpaceGateway.Proofs.ReplyText
import SpaceGateway.Proofs.ConfigText
import SpaceGateway.Proofs.Interchange
import SpaceGateway.Proofs.Course
import SpaceGateway.Proofs.Footprint
import SpaceGateway.Proofs.Protocol
import SpaceGateway.Proofs.Attendance
import SpaceGateway.Proofs.Bookkeeping
import SpaceGateway.Proofs.Ownership
import SpaceGateway.Proofs.Holders
import SpaceGateway.Proofs.Tenure
import SpaceGateway.Proofs.Reachability
import SpaceGateway.Proofs.Replies
import SpaceGateway.Proofs.Keeping
import SpaceGateway.Proofs.Leaks
import SpaceGateway.Proofs.Frames
import SpaceGateway.Proofs.Feed
import SpaceGateway.Proofs.Places
import SpaceGateway.Proofs.Subscription
import SpaceGateway.Proofs.Dispatch
import SpaceGateway.Proofs.Drain
import SpaceGateway.Proofs.Dialogue
import SpaceGateway.Proofs.Conduct
import SpaceGateway.Proofs.Outcome
import SpaceGateway.Proofs.Verdict
import SpaceGateway.Proofs.Success
import SpaceGateway.Proofs.Farewells
import SpaceGateway.Proofs.Lifetimes
import SpaceGateway.Proofs.Moves
import SpaceGateway.Proofs.Spellings
import SpaceGateway.Proofs.Conservation
import SpaceGateway.Proofs.Connections
import SpaceGateway.Proofs.Enrolment
import SpaceGateway.Proofs.Endings
import SpaceGateway.Proofs.Acceptance
import SpaceGateway.Proofs.Framing
import SpaceGateway.Proofs.Directory
import SpaceGateway.Proofs.Announcement
import SpaceGateway.Proofs.Polling
import SpaceGateway.Proofs.Admission
import SpaceGateway.Proofs.Requests
import SpaceGateway.Proofs.Progress
import SpaceGateway.Proofs.Listening
import SpaceGateway.Proofs.Failures
import SpaceGateway.Proofs.Contract
