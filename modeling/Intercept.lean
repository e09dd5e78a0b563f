import Intercept.Address
import Intercept.Address.Field
import Intercept.Admission
import Intercept.Bytes
import Intercept.Clock
import Intercept.CommandLine
import Intercept.ControlRecord
import Intercept.Dial
import Intercept.Endpoint
import Intercept.Failure
import Intercept.Failure.Framing
import Intercept.Failure.Kind
import Intercept.Failure.Listener
import Intercept.Failure.Negotiation
import Intercept.Failure.Recovery
import Intercept.Failure.Settings
import Intercept.Failure.Socket
import Intercept.FileSystem
import Intercept.FlowTable
import Intercept.Host
import Intercept.IoFault
import Intercept.IoFault.Description
import Intercept.Ip
import Intercept.Ip.Text
import Intercept.Json
import Intercept.Json.Reader
import Intercept.Json.Record
import Intercept.Json.Token
import Intercept.Ledger
import Intercept.Ledger.Snapshot
import Intercept.Listener
import Intercept.Main
import Intercept.Network
import Intercept.Proofs.Proxy.Listening
import Intercept.Proofs.Stream.Calm
import Intercept.Proxy.BoundAddress
import Intercept.Proxy.Credential
import Intercept.Proxy.Dialogue
import Intercept.Proxy.Envelope
import Intercept.Proxy.Negotiation
import Intercept.Proxy.Phase
import Intercept.Proxy.Reply
import Intercept.Proxy.Request
import Intercept.Proxy.Talk
import Intercept.Relay.Datagrams
import Intercept.Relay.Duplex
import Intercept.Relay.Pipe
import Intercept.Session
import Intercept.Session.Association
import Intercept.Session.Connection
import Intercept.Session.Surroundings
import Intercept.Session.Tunnel
import Intercept.Settings
import Intercept.Settings.Environment
import Intercept.Settings.Load
import Intercept.Settings.Rules
import Intercept.Settings.Text
import Intercept.Slots
import Intercept.SocketOption
import Intercept.Stream
import Intercept.Stream.Transfer
import Intercept.Text.Decimal
import Intercept.Text.Hex
import Intercept.Text.Printable
import Intercept.Text.Quoted
import Intercept.Text.Utf8
import Intercept.Transport
import Intercept.Proofs.Address.Grammar
import Intercept.Proofs.Proxy.Answer
import Intercept.Proofs.Proxy.Opening
import Intercept.Proofs.Course
import Intercept.Proofs.Proxy.Conversation
import Intercept.Proofs.Proxy.Discipline
import Intercept.Proofs.Relay.Books
import Intercept.Proofs.Relay.Script
import Intercept.Proofs.Relay.Lossless
import Intercept.Proofs.Relay.Separation
import Intercept.Proofs.Relay.Traffic
import Intercept.Proofs.ControlRecord.FirstMatch
import Intercept.Proofs.Address.RoundTrip
import Intercept.Proofs.Proxy.Readers
import Intercept.Proofs.Stream.Deadline
import Intercept.Proofs.Stream.Passage
import Intercept.Proofs.Proxy.Deadline
import Intercept.Proofs.Admission.Steps
import Intercept.Proofs.Admission.Conservation
import Intercept.Proofs.Admission.Limit
import Intercept.Proofs.Admission.Permits
import Intercept.Proofs.Admission.Waiting
import Intercept.Proofs.Admission.Drain
import Intercept.Proofs.Admission.Abandonment
import Intercept.Proofs.Admission.Accounts
import Intercept.Proofs.Proxy.Wrapping
import Intercept.Proofs.Proxy.Transcript
import Intercept.Proofs.FlowTable.Registration
import Intercept.Proofs.FlowTable.Delivery
import Intercept.Proofs.Endpoint.RoundTrip
import Intercept.Proofs.Json.ReadBack
import Intercept.Proofs.Settings.ReadBack
import Intercept.Proofs.Session.Families
import Intercept.Proofs.Proxy.Offer
import Intercept.Proofs.Proxy.Pieces
import Intercept.Proofs.Ledger.Totals
import Intercept.Proofs.Ledger.Interleaving
import Intercept.Proofs.Session.Outcome
import Intercept.Proofs.Session.Datagrams
import Intercept.Proofs.Address.WriteBack
import Intercept.Proofs.Address.HostText
import Intercept.Proofs.Settings.Overrides
import Intercept.Proofs.ControlRecord.Words
import Intercept.Proofs.ControlRecord.Truncation
import Intercept.Proofs.Proxy.SingleUse
import Intercept.Proofs.FlowTable.OneForm
import Intercept.Proofs.Ledger.ReadBack
import Intercept.Proofs.CommandLine.Reading
