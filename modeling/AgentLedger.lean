import AgentLedger.Amount
import AgentLedger.Client
import AgentLedger.Client.Config
import AgentLedger.Client.Conversation
import AgentLedger.Client.Task
import AgentLedger.Demo
import AgentLedger.Digest
import AgentLedger.Duration
import AgentLedger.Environment
import AgentLedger.Failure
import AgentLedger.Http.Charset
import AgentLedger.Http.Codepage
import AgentLedger.Http.MediaType
import AgentLedger.Http.Message
import AgentLedger.Http.Status
import AgentLedger.Http.Stream
import AgentLedger.Json.Doc
import AgentLedger.Json.Envelope
import AgentLedger.Json.Fault
import AgentLedger.Json.Numeral
import AgentLedger.Json.Reader
import AgentLedger.Json.Record
import AgentLedger.Json.Value
import AgentLedger.Ledger
import AgentLedger.Ledger.Draw
import AgentLedger.Ledger.Refusal
import AgentLedger.Ledger.Rules
import AgentLedger.Ledger.Run
import AgentLedger.Main
import AgentLedger.Proofs.Amounts
import AgentLedger.Proofs.Amounts.Text
import AgentLedger.Proofs.Client.Calls
import AgentLedger.Proofs.Client.Crowd
import AgentLedger.Proofs.Client.Diagnosis
import AgentLedger.Proofs.Client.Endpoint
import AgentLedger.Proofs.Client.Exchange
import AgentLedger.Proofs.Client.Refinement
import AgentLedger.Proofs.Client.Polling
import AgentLedger.Proofs.Client.Refusals
import AgentLedger.Proofs.Client.Scripts
import AgentLedger.Proofs.Demo
import AgentLedger.Proofs.Json.Amounts
import AgentLedger.Proofs.Json.Members
import AgentLedger.Proofs.Json.Records
import AgentLedger.Proofs.Json.RoundTrip
import AgentLedger.Proofs.Json.Written
import AgentLedger.Proofs.Ledger.ChannelLife
import AgentLedger.Proofs.Ledger.Conservation
import AgentLedger.Proofs.Ledger.Effects
import AgentLedger.Proofs.Ledger.Funds
import AgentLedger.Proofs.Ledger.Growth
import AgentLedger.Proofs.Ledger.History
import AgentLedger.Proofs.Ledger.Identity
import AgentLedger.Proofs.Ledger.Independence
import AgentLedger.Proofs.Ledger.Ownership
import AgentLedger.Proofs.Ledger.Settlement
import AgentLedger.Proofs.Ledger.Soundness
import AgentLedger.Proofs.Ledger.Writes
import AgentLedger.Proofs.Report
import AgentLedger.Proofs.Service.Limit
import AgentLedger.Proofs.Service.Operations
import AgentLedger.Proofs.Service.Requests
import AgentLedger.Proofs.Service.Routes
import AgentLedger.Proofs.Text.Decimal
import AgentLedger.Proofs.Text.Percent
import AgentLedger.Proofs.Text.Utf8
import AgentLedger.Proofs.Timestamp
import AgentLedger.Proofs.Url.Reader
import AgentLedger.Proofs.Url.Segments
import AgentLedger.Proofs.Wire
import AgentLedger.Report
import AgentLedger.Service
import AgentLedger.Service.Config
import AgentLedger.Service.Route
import AgentLedger.Text.Binary64
import AgentLedger.Text.Blank
import AgentLedger.Text.Category
import AgentLedger.Text.Combining
import AgentLedger.Text.Composites
import AgentLedger.Text.Hex
import AgentLedger.Text.Letter
import AgentLedger.Text.Normal
import AgentLedger.Text.Number
import AgentLedger.Text.Percent
import AgentLedger.Text.Printable
import AgentLedger.Text.Punycode
import AgentLedger.Text.Quoted
import AgentLedger.Text.Split
import AgentLedger.Text.Table
import AgentLedger.Text.Upper
import AgentLedger.Text.Utf16
import AgentLedger.Text.Utf8
import AgentLedger.Timestamp
import AgentLedger.Timestamp.Reader
import AgentLedger.Url
import AgentLedger.Url.Domain
import AgentLedger.Url.Domain.Direction
import AgentLedger.Url.Domain.Joining
import AgentLedger.Url.Domain.Mapping
import AgentLedger.Url.Host
import AgentLedger.Url.Reader
import AgentLedger.Wire
import AgentLedger.Proofs.Client.Batches
import AgentLedger.Proofs.Client.Enrolment
import AgentLedger.Proofs.Client.Waiting
import AgentLedger.Proofs.Ledger.Openings
import AgentLedger.Proofs.Client.Listing
import AgentLedger.Proofs.Ledger.Footprint
import AgentLedger.Proofs.Ledger.Stock
import AgentLedger.Proofs.Evolution
import AgentLedger.Proofs.Client.FirstText
