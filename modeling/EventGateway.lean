import EventGateway.Access.Authenticate
import EventGateway.Access.Claims
import EventGateway.Access.EmbeddedKey
import EventGateway.Access.Header
import EventGateway.Access.Principal
import EventGateway.Access.Restrictions
import EventGateway.Access.Scope
import EventGateway.Broker.Basic
import EventGateway.Broker.Dispatch
import EventGateway.Broker.Gate
import EventGateway.Command.Basic
import EventGateway.Command.Error
import EventGateway.Command.Message
import EventGateway.Data.Checked
import EventGateway.Data.Dictionary
import EventGateway.Decimal.Binary64
import EventGateway.Decimal.Shortest
import EventGateway.Event.Basic
import EventGateway.Event.Frame
import EventGateway.Event.Name
import EventGateway.Event.Refs
import EventGateway.Hash.Hmac
import EventGateway.Hash.Sha256
import EventGateway.Json.Decode
import EventGateway.Json.Embedded
import EventGateway.Json.Fault
import EventGateway.Json.Lexis
import EventGateway.Json.Printer
import EventGateway.Json.Reader
import EventGateway.Json.Record
import EventGateway.Json.Value
import EventGateway.Net.Address
import EventGateway.Net.Netmask
import EventGateway.Net.Url
import EventGateway.Proofs.Access.Acceptance
import EventGateway.Proofs.Access.Headers
import EventGateway.Proofs.Access.Issuance
import EventGateway.Proofs.Access.Issues
import EventGateway.Proofs.Access.Outcomes
import EventGateway.Proofs.Access.Restrictions
import EventGateway.Proofs.Access.Revalidation
import EventGateway.Proofs.Access.Revocation
import EventGateway.Proofs.Broker.Membership
import EventGateway.Proofs.Event.Envelopes
import EventGateway.Proofs.Event.Frames
import EventGateway.Proofs.Json.Embedded
import EventGateway.Proofs.Json.Fields
import EventGateway.Proofs.Json.Grammar
import EventGateway.Proofs.Json.Members
import EventGateway.Proofs.Json.Numerals
import EventGateway.Proofs.Json.Ordered
import EventGateway.Proofs.Json.Records
import EventGateway.Proofs.Json.RoundTrip
import EventGateway.Proofs.Json.Skipping
import EventGateway.Proofs.Json.Spelling
import EventGateway.Proofs.Json.Texts
import EventGateway.Proofs.Json.Values
import EventGateway.Proofs.Net.Blocks
import EventGateway.Proofs.Net.Spelling
import EventGateway.Proofs.Room.Edges
import EventGateway.Proofs.Room.Listing
import EventGateway.Proofs.Room.Payloads
import EventGateway.Proofs.Service.Acknowledgement
import EventGateway.Proofs.Service.Admission
import EventGateway.Proofs.Service.Barrier
import EventGateway.Proofs.Service.Calls
import EventGateway.Proofs.Service.Checks
import EventGateway.Proofs.Service.Deadlines
import EventGateway.Proofs.Service.Demotion
import EventGateway.Proofs.Service.Dispatch
import EventGateway.Proofs.Service.Failures
import EventGateway.Proofs.Service.Faults
import EventGateway.Proofs.Service.Grace
import EventGateway.Proofs.Service.History
import EventGateway.Proofs.Service.Instants
import EventGateway.Proofs.Service.Isolation
import EventGateway.Proofs.Service.Lines
import EventGateway.Proofs.Service.Masks
import EventGateway.Proofs.Service.Noninterference
import EventGateway.Proofs.Service.Order
import EventGateway.Proofs.Service.Passes
import EventGateway.Proofs.Service.Provenance
import EventGateway.Proofs.Service.Publication
import EventGateway.Proofs.Service.Readmission
import EventGateway.Proofs.Service.Reauthentication
import EventGateway.Proofs.Service.Reauthorization
import EventGateway.Proofs.Service.Replay
import EventGateway.Proofs.Service.Steps
import EventGateway.Proofs.Session.Answers
import EventGateway.Proofs.Session.Contents
import EventGateway.Proofs.Session.Draining
import EventGateway.Proofs.Session.Heartbeats
import EventGateway.Proofs.Session.LineTasks
import EventGateway.Proofs.Session.Masks
import EventGateway.Proofs.Session.Moves
import EventGateway.Proofs.Session.Names
import EventGateway.Proofs.Session.Outcomes
import EventGateway.Proofs.Session.Queueing
import EventGateway.Proofs.Session.Readers
import EventGateway.Proofs.Session.Replies
import EventGateway.Proofs.Session.Slots
import EventGateway.Proofs.Store.Answers
import EventGateway.Proofs.Store.Faults
import EventGateway.Proofs.Store.Progress
import EventGateway.Proofs.Text.Base64Url
import EventGateway.Proofs.Text.Bytes
import EventGateway.Proofs.Transport.Delivery
import EventGateway.Proofs.Transport.Ring
import EventGateway.Proofs.Visibility.Anonymous
import EventGateway.Proofs.Visibility.Destruction
import EventGateway.Proofs.Visibility.Specification
import EventGateway.Proofs.Visibility.Tightening
import EventGateway.Room.Basic
import EventGateway.Room.Listing
import EventGateway.Room.Payload
import EventGateway.Room.Table
import EventGateway.Service.Config
import EventGateway.Service.Delivery
import EventGateway.Service.Error
import EventGateway.Service.Http
import EventGateway.Service.Reader
import EventGateway.Service.Reauthorize
import EventGateway.Service.Schedule
import EventGateway.Service.Step
import EventGateway.Service.World
import EventGateway.Service.Writer
import EventGateway.Session.Basic
import EventGateway.Session.Connection
import EventGateway.Session.Identity
import EventGateway.Session.Line
import EventGateway.Session.Outbound
import EventGateway.Session.Reply
import EventGateway.Store.Access
import EventGateway.Store.Basic
import EventGateway.Store.Content
import EventGateway.Store.Limited
import EventGateway.Store.Lookup
import EventGateway.Text.Base64Url
import EventGateway.Text.Blank
import EventGateway.Text.Numeral
import EventGateway.Text.Percent
import EventGateway.Text.Quoted
import EventGateway.Text.Unprintable
import EventGateway.Text.Utf8
import EventGateway.Transport.Broadcast
import EventGateway.Transport.Bus
import EventGateway.Transport.Hub
import EventGateway.Transport.Local
import EventGateway.Transport.Message
import EventGateway.Transport.Publisher
import EventGateway.Transport.Remote
import EventGateway.Visibility.Decision
