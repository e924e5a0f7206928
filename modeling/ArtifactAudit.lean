import ArtifactAudit.Cluster.Command
import ArtifactAudit.Cluster.Exec
import ArtifactAudit.Cluster.Kubectl
import ArtifactAudit.Cluster.Pod
import ArtifactAudit.CommandLine.Options
import ArtifactAudit.CommandLine.Program
import ArtifactAudit.Encoding.Base64
import ArtifactAudit.Encoding.Charset
import ArtifactAudit.Encoding.CodePage
import ArtifactAudit.Encoding.ContentType
import ArtifactAudit.Encoding.Hex
import ArtifactAudit.Encoding.Percent
import ArtifactAudit.Encoding.Punycode
import ArtifactAudit.Encoding.Utf16
import ArtifactAudit.Encoding.Utf8
import ArtifactAudit.Failure
import ArtifactAudit.Failure.Record
import ArtifactAudit.Fault
import ArtifactAudit.Host.Exchange
import ArtifactAudit.Json.Reader
import ArtifactAudit.Json.Value
import ArtifactAudit.Json.Writer
import ArtifactAudit.Logging.Filter
import ArtifactAudit.Logging.Line
import ArtifactAudit.Logging.Setup
import ArtifactAudit.Logging.Template
import ArtifactAudit.Main
import ArtifactAudit.Markup.Escape
import ArtifactAudit.Number.Layout
import ArtifactAudit.Number.Literal
import ArtifactAudit.Number.Nearest
import ArtifactAudit.Number.Places
import ArtifactAudit.Number.Shortest
import ArtifactAudit.Path
import ArtifactAudit.Platform.Client
import ArtifactAudit.Platform.Defect
import ArtifactAudit.Platform.Exchange
import ArtifactAudit.Platform.Model
import ArtifactAudit.Platform.Record
import ArtifactAudit.Platform.Upload
import ArtifactAudit.Rehearsal.Files
import ArtifactAudit.Rehearsal.World
import ArtifactAudit.Scenario.Report
import ArtifactAudit.Scenario.State
import ArtifactAudit.Scenario.Verifier
import ArtifactAudit.Script.Basic
import ArtifactAudit.Settings.Config
import ArtifactAudit.Settings.Environment
import ArtifactAudit.Settings.Options
import ArtifactAudit.Shell.Word
import ArtifactAudit.Text.Cased
import ArtifactAudit.Text.CodeRun
import ArtifactAudit.Text.Cut
import ArtifactAudit.Text.Digit
import ArtifactAudit.Text.LowerCase
import ArtifactAudit.Text.Phrase
import ArtifactAudit.Text.Printable
import ArtifactAudit.Text.Quoted
import ArtifactAudit.Text.Similarity
import ArtifactAudit.Text.Terminal
import ArtifactAudit.Text.Upper
import ArtifactAudit.Url.Address
import ArtifactAudit.Url.DomainName
import ArtifactAudit.Url.DomainName.Composition
import ArtifactAudit.Url.DomainName.Context
import ArtifactAudit.Url.DomainName.Direction
import ArtifactAudit.Url.DomainName.Mark
import ArtifactAudit.Url.DomainName.Permitted
import ArtifactAudit.Url.Download
import ArtifactAudit.Url.Location
import ArtifactAudit.Url.Split
import ArtifactAudit.Proofs.Script.Course
import ArtifactAudit.Proofs.Cluster.Sessions
import ArtifactAudit.Proofs.Platform.Exchange
import ArtifactAudit.Proofs.Platform.Operations
import ArtifactAudit.Proofs.Scenario.Check
import ArtifactAudit.Proofs.Scenario.Checks
import ArtifactAudit.Proofs.Scenario.Progress
import ArtifactAudit.Proofs.Scenario.Verdict
import ArtifactAudit.Proofs.Scenario.Isolation
import ArtifactAudit.Proofs.Scenario.Protocol
import ArtifactAudit.Proofs.Shell.Reading
import ArtifactAudit.Proofs.Shell.Download
import ArtifactAudit.Proofs.Text.Ascii
import ArtifactAudit.Proofs.Text.Pieces
import ArtifactAudit.Proofs.Settings.Path
import ArtifactAudit.Proofs.Url.Scheme
import ArtifactAudit.Proofs.Settings.Interchange
import ArtifactAudit.Proofs.Script.Pool
import ArtifactAudit.Proofs.Scenario.Parallel
import ArtifactAudit.Proofs.CommandLine.Status
import ArtifactAudit.Proofs.Encoding.Utf8
import ArtifactAudit.Proofs.Encoding.Percent
import ArtifactAudit.Proofs.Url.Segments
import ArtifactAudit.Proofs.Url.Base
import ArtifactAudit.Proofs.Script.Observation
import ArtifactAudit.Proofs.Platform.Answers
import ArtifactAudit.Proofs.Platform.Addresses
import ArtifactAudit.Proofs.Platform.Polling
import ArtifactAudit.Proofs.Platform.Lookup
import ArtifactAudit.Proofs.Scenario.Coverage
import ArtifactAudit.Proofs.Text.Blank
import ArtifactAudit.Proofs.Url.Joining
import ArtifactAudit.Proofs.Url.Download
import ArtifactAudit.Proofs.Url.Stability
import ArtifactAudit.Proofs.Platform.Paging
import ArtifactAudit.Proofs.Cluster.Listing
import ArtifactAudit.Proofs.Settings.Required
import ArtifactAudit.Proofs.Settings.Usable
import ArtifactAudit.Proofs.Text.Phrase
import ArtifactAudit.Proofs.Text.Lowering
import ArtifactAudit.Proofs.Encoding.Phrase
import ArtifactAudit.Proofs.Cluster.Severity
import ArtifactAudit.Proofs.Scenario.Markers
import ArtifactAudit.Proofs.Encoding.Form
import ArtifactAudit.Proofs.Url.Query
import ArtifactAudit.Proofs.Platform.Parameters
import ArtifactAudit.Proofs.Platform.Trail
import ArtifactAudit.Proofs.Markup.Tags
import ArtifactAudit.Proofs.Markup.Escape
import ArtifactAudit.Proofs.CommandLine.Printing
import ArtifactAudit.Proofs.Scenario.Views
import ArtifactAudit.Proofs.Text.Routes
import ArtifactAudit.Proofs.Url.Places
import ArtifactAudit.Proofs.Platform.Requests
import ArtifactAudit.Proofs.Logging.Polls
