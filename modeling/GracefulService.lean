import GracefulService.CommandLine
import GracefulService.Config.Basic
import GracefulService.Config.Decoding
import GracefulService.Config.Encoding
import GracefulService.Config.Reading
import GracefulService.Config.Validation
import GracefulService.Demo.Arguments
import GracefulService.Demo.Run
import GracefulService.Document
import GracefulService.Health.Decoding
import GracefulService.Health.Report
import GracefulService.Health.Status
import GracefulService.Http.Accept
import GracefulService.Http.Form
import GracefulService.Http.Message
import GracefulService.Http.Method
import GracefulService.Http.Route
import GracefulService.Http.Target
import GracefulService.Json.Fault
import GracefulService.Json.Number
import GracefulService.Json.Printer
import GracefulService.Json.Reader
import GracefulService.Json.Scanner
import GracefulService.Lifecycle.Cause
import GracefulService.Lifecycle.Phase
import GracefulService.Lifecycle.Snapshot
import GracefulService.Main
import GracefulService.Net.Address
import GracefulService.Net.Machine
import GracefulService.Net.Surface
import GracefulService.Net.Url
import GracefulService.Number.Binary
import GracefulService.Number.Digits
import GracefulService.Number.Scientific
import GracefulService.Number.Shortest
import GracefulService.ProbeClient.Arguments
import GracefulService.ProbeClient.Help
import GracefulService.ProbeClient.Inquiry
import GracefulService.ProbeClient.Run
import GracefulService.Proofs.Abandonment
import GracefulService.Proofs.Accounts
import GracefulService.Proofs.Addresses
import GracefulService.Proofs.Admission
import GracefulService.Proofs.Asides
import GracefulService.Proofs.Attention
import GracefulService.Proofs.Bindings
import GracefulService.Proofs.Books
import GracefulService.Proofs.Breaches
import GracefulService.Proofs.Closing
import GracefulService.Proofs.ControlRoutes
import GracefulService.Proofs.Custody
import GracefulService.Proofs.Cutting
import GracefulService.Proofs.Deeds
import GracefulService.Proofs.Delaying
import GracefulService.Proofs.Delays
import GracefulService.Proofs.Destinations
import GracefulService.Proofs.Dispatch
import GracefulService.Proofs.Fates
import GracefulService.Proofs.FirstCause
import GracefulService.Proofs.Inquiries
import GracefulService.Proofs.Letters
import GracefulService.Proofs.Lifecycle
import GracefulService.Proofs.Listeners
import GracefulService.Proofs.Logs
import GracefulService.Proofs.Magnitudes
import GracefulService.Proofs.MarkDown
import GracefulService.Proofs.Marks
import GracefulService.Proofs.Moves
import GracefulService.Proofs.Negotiation
import GracefulService.Proofs.Numbering
import GracefulService.Proofs.Numerals
import GracefulService.Proofs.Omissions
import GracefulService.Proofs.OrderlyStop
import GracefulService.Proofs.Origins
import GracefulService.Proofs.Overlap
import GracefulService.Proofs.Pasts
import GracefulService.Proofs.Polls
import GracefulService.Proofs.Precedence
import GracefulService.Proofs.Preferences
import GracefulService.Proofs.Printed
import GracefulService.Proofs.Probes
import GracefulService.Proofs.Published
import GracefulService.Proofs.Publishing
import GracefulService.Proofs.Rechecking
import GracefulService.Proofs.Refusals
import GracefulService.Proofs.Rehearsals
import GracefulService.Proofs.Reordering
import GracefulService.Proofs.Reports
import GracefulService.Proofs.RequestIds
import GracefulService.Proofs.Resuming
import GracefulService.Proofs.Retrying
import GracefulService.Proofs.Routes
import GracefulService.Proofs.Scripts
import GracefulService.Proofs.Sections
import GracefulService.Proofs.Servers
import GracefulService.Proofs.Serving
import GracefulService.Proofs.Sessions
import GracefulService.Proofs.Slots
import GracefulService.Proofs.Spelling
import GracefulService.Proofs.Stages
import GracefulService.Proofs.Supervision
import GracefulService.Proofs.Turns
import GracefulService.Proofs.Unseen
import GracefulService.Proofs.Verdicts
import GracefulService.Proofs.Window
import GracefulService.Proofs.Wire
import GracefulService.Record.Event
import GracefulService.Record.Filter
import GracefulService.Record.Meters
import GracefulService.Serve.Answer
import GracefulService.Serve.Clock
import GracefulService.Serve.Delay
import GracefulService.Serve.Delegate
import GracefulService.Serve.Effort
import GracefulService.Serve.Errand
import GracefulService.Serve.Script
import GracefulService.Serve.Site
import GracefulService.Serve.Turn
import GracefulService.Serve.World
import GracefulService.Supervisor.Basic
import GracefulService.Supervisor.Client
import GracefulService.Supervisor.Listening
import GracefulService.Supervisor.Opening
import GracefulService.Supervisor.Script
import GracefulService.Text.Blank
import GracefulService.Text.Extending
import GracefulService.Text.Invisible
import GracefulService.Text.Octets
import GracefulService.Text.Quoted
import GracefulService.Text.Span
import GracefulService.Toml.Lexeme
import GracefulService.Toml.Reader
import GracefulService.Toml.Scalar
import GracefulService.Toml.Tree
