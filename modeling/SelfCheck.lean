import SelfCheck.Answer
import SelfCheck.Command
import SelfCheck.Command.Layout
import SelfCheck.CommandLine
import SelfCheck.Config
import SelfCheck.Config.Environment
import SelfCheck.Config.Reader
import SelfCheck.Context
import SelfCheck.Decimal.Shortest
import SelfCheck.Dispatch
import SelfCheck.Effect
import SelfCheck.Failure
import SelfCheck.Frame.Checksum
import SelfCheck.Frame.Error
import SelfCheck.Frame.Split
import SelfCheck.Frame.Stream
import SelfCheck.Frame.Trailer
import SelfCheck.Gateway
import SelfCheck.Health
import SelfCheck.Json
import SelfCheck.Json.Number
import SelfCheck.Json.Reader
import SelfCheck.Json.Writer
import SelfCheck.Main
import SelfCheck.Message
import SelfCheck.Message.Payload
import SelfCheck.Message.Printer
import SelfCheck.Message.Reader
import SelfCheck.Net.Address
import SelfCheck.Net.HostName
import SelfCheck.Net.HostName.Composed
import SelfCheck.Net.HostName.Label
import SelfCheck.Net.HostName.Refused
import SelfCheck.Net.HostName.Spelling
import SelfCheck.Net.HostName.Variant
import SelfCheck.Net.Listen
import SelfCheck.Net.Network
import SelfCheck.Net.Punycode
import SelfCheck.Net.Url
import SelfCheck.Platform
import SelfCheck.Platform.Http
import SelfCheck.Policy
import SelfCheck.Policy.Reader
import SelfCheck.Policy.Source
import SelfCheck.Policy.Writer
import SelfCheck.Proofs.Answer
import SelfCheck.Proofs.Dispatch
import SelfCheck.Proofs.Dispatch.Answers
import SelfCheck.Proofs.Dispatch.Binding
import SelfCheck.Proofs.Dispatch.Provenance
import SelfCheck.Proofs.Dispatch.Queue
import SelfCheck.Proofs.Frame.Lines
import SelfCheck.Proofs.Frame.Split
import SelfCheck.Proofs.Gateway.Course
import SelfCheck.Proofs.Gateway.Deadlines
import SelfCheck.Proofs.Gateway.Tokens
import SelfCheck.Proofs.Message.Corruption
import SelfCheck.Proofs.Message.Texts
import SelfCheck.Proofs.Session.Binding
import SelfCheck.Proofs.Session.Chunks
import SelfCheck.Proofs.Session.Course
import SelfCheck.Proofs.Session.Gate
import SelfCheck.Proofs.Session.Lines
import SelfCheck.Proofs.Session.Move
import SelfCheck.Proofs.Session.Replay
import SelfCheck.Proofs.Session.Resend
import SelfCheck.Proofs.Session.Tokens
import SelfCheck.Proofs.Template
import SelfCheck.Proofs.Text.Utf8
import SelfCheck.Proofs.Token
import SelfCheck.Proofs.Token.Course
import SelfCheck.Proofs.Token.Queue
import SelfCheck.Proofs.Token.Recency
import SelfCheck.Proofs.Token.Gates
import SelfCheck.Rehearsal.Callers
import SelfCheck.Rehearsal.Cast
import SelfCheck.Rehearsal.Request
import SelfCheck.Rehearsal.Terminal
import SelfCheck.Resolver
import SelfCheck.Resolver.Spec
import SelfCheck.Session
import SelfCheck.Session.Sequence
import SelfCheck.Setup
import SelfCheck.Sorted
import SelfCheck.Tally
import SelfCheck.Template
import SelfCheck.Template.Bundled
import SelfCheck.Template.Printer
import SelfCheck.Template.Reader
import SelfCheck.Tenant
import SelfCheck.Text.Blank
import SelfCheck.Text.Combining
import SelfCheck.Text.Direction
import SelfCheck.Text.Hidden
import SelfCheck.Text.Joining
import SelfCheck.Text.Mark
import SelfCheck.Text.Numeral
import SelfCheck.Text.Quoted
import SelfCheck.Text.Ranges
import SelfCheck.Text.Utf8
import SelfCheck.Time.Instant
import SelfCheck.Time.Stamp
import SelfCheck.Token.Cache
import SelfCheck.Token.Logins
import SelfCheck.Toml.Quoted
import SelfCheck.Toml.Reader
import SelfCheck.Toml.Scalar
import SelfCheck.Toml.Table
import SelfCheck.Tree
import SelfCheck.Tree.Fields
import SelfCheck.Proofs.Message.RoundTrip
import SelfCheck.Proofs.Session.Unexecuted
import SelfCheck.Proofs.Session.Accounts
import SelfCheck.Proofs.Answer.Status
import SelfCheck.Proofs.Dispatch.Recognition
import SelfCheck.Proofs.Session.Advertised
import SelfCheck.Proofs.Text.Numeral
import SelfCheck.Proofs.Time.Stamp
import SelfCheck.Proofs.Answer.Columns
import SelfCheck.Proofs.Template.Names
import SelfCheck.Proofs.Template.Tags
import SelfCheck.Proofs.Template.Flaws
import SelfCheck.Proofs.Template.RoundTrip
import SelfCheck.Proofs.Answer.Coverage
import SelfCheck.Proofs.Dispatch.Requests
import SelfCheck.Proofs.Dispatch.Failures
import SelfCheck.Proofs.Session.Failures
import SelfCheck.Proofs.Gateway.Refusals
import SelfCheck.Proofs.Gateway.Renewal
import SelfCheck.Proofs.Frame.Pieces
import SelfCheck.Proofs.Message.Stages
import SelfCheck.Proofs.Message.Positions
import SelfCheck.Proofs.Message.Grammar
import SelfCheck.Proofs.Message.Unnumbered
import SelfCheck.Proofs.Text.Boundary
import SelfCheck.Proofs.Platform.Status
import SelfCheck.Proofs.Frame.Portions
import SelfCheck.Proofs.Session.Intake
import SelfCheck.Proofs.Session.Buffer
import SelfCheck.Proofs.Text.Blank
import SelfCheck.Proofs.Text.Cut
import SelfCheck.Proofs.Net.Network
import SelfCheck.Proofs.Sorted
import SelfCheck.Proofs.Traversal
import SelfCheck.Proofs.Resolver.Subnet
import SelfCheck.Proofs.Config.Limits
import SelfCheck.Proofs.Answer.Echo
import SelfCheck.Proofs.Session.Echo
