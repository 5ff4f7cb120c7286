import HeaderAudit.Text.Hex
import HeaderAudit.Text.RangeTable
import HeaderAudit.Text.CaseData
import HeaderAudit.Text.Case
import HeaderAudit.Text.Blank
import HeaderAudit.Text.Printable
import HeaderAudit.Text.Quoted
import HeaderAudit.Text.Search
import HeaderAudit.Text.Decimal
import HeaderAudit.Json.Value
import HeaderAudit.Error
import HeaderAudit.Message.Header
import HeaderAudit.Message.Split
import HeaderAudit.Message.Request
import HeaderAudit.Message.Response
import HeaderAudit.Message.Record
import HeaderAudit.Check.Verdict
import HeaderAudit.Check.Context
import HeaderAudit.Check.Basic
import HeaderAudit.Check.Judge
import HeaderAudit.Check.Registry
import HeaderAudit.Check.Report
import HeaderAudit.Highlight.Segment
import HeaderAudit.Highlight.Line
import HeaderAudit.Highlight.Run
import HeaderAudit.Address.Bytes
import HeaderAudit.Address.Escape
import HeaderAudit.Address.Basic
import HeaderAudit.Address.Parse
import HeaderAudit.Address.Resolve
import HeaderAudit.Address.Query
import HeaderAudit.Address.Clean
import HeaderAudit.Address.Canonical
import HeaderAudit.Host.MappingData
import HeaderAudit.Host.Punycode
import HeaderAudit.Host.Idna
import HeaderAudit.Json.Decode
import HeaderAudit.Ident
import HeaderAudit.Exclusion.Rule
import HeaderAudit.Exclusion.Store
import HeaderAudit.Web.HeaderMap
import HeaderAudit.Web.Exchange
import HeaderAudit.Check.Decode
import HeaderAudit.Compare.Span
import HeaderAudit.Compare.Search
import HeaderAudit.Analysis.Entry
import HeaderAudit.Analysis.Row
import HeaderAudit.Analysis.HeaderDiff
import HeaderAudit.Json.Parse
import HeaderAudit.Storage.Workspace
import HeaderAudit.Storage.ResultStore
import HeaderAudit.Yaml.Token
import HeaderAudit.Yaml.Scanner
import HeaderAudit.Yaml.Event
import HeaderAudit.Yaml.Resolve
import HeaderAudit.Yaml.Node
import HeaderAudit.Text.Duration
import HeaderAudit.Yaml.Decode
import HeaderAudit.Settings.Basic
import HeaderAudit.Settings.Load
import HeaderAudit.Web.Client
import HeaderAudit.Web.Handler
import HeaderAudit.Demo.Pages
import HeaderAudit.Demo.Site
import HeaderAudit.Markup.ReferenceData
import HeaderAudit.Markup.Reference
import HeaderAudit.Markup.Token
import HeaderAudit.Markup.Document
import HeaderAudit.Crawl.Spider
import HeaderAudit.Scan.Batch
import HeaderAudit.Scan.Job
import HeaderAudit.Service.Route
import HeaderAudit.Runtime
import HeaderAudit.Scan.Application
import HeaderAudit.Cli.Flags
import HeaderAudit.Cli.Args
import HeaderAudit.Cli.Run
import HeaderAudit.Cli.Demo
import HeaderAudit.Service.Api
import HeaderAudit.Log.Basic
import HeaderAudit.Demo.Network
import HeaderAudit.Runtime.Standard
import HeaderAudit.Main
import HeaderAudit.Proofs.Highlight.Placement
import HeaderAudit.Proofs.Highlight.Matches
import HeaderAudit.Proofs.Message.HeaderLines
import HeaderAudit.Proofs.Exclusion.Calls
import HeaderAudit.Proofs.Exclusion.Refinement
import HeaderAudit.Proofs.Scan.BatchRun
import HeaderAudit.Proofs.Exclusion.Listeners
import HeaderAudit.Proofs.Json.RoundTrip
import HeaderAudit.Proofs.Outcome
import HeaderAudit.Proofs.Storage.Rows
import HeaderAudit.Proofs.Storage.Reference
import HeaderAudit.Exclusion.Watch
import HeaderAudit.Proofs.Exclusion.Watching
import HeaderAudit.Proofs.Service.Routing
import HeaderAudit.Proofs.Service.RuleEndpoints
import HeaderAudit.Proofs.Cli.AnalyzeExit
import HeaderAudit.Proofs.Scan.JobLifecycle
import HeaderAudit.Proofs.Highlight.Runs
import HeaderAudit.Proofs.Text.Cut
import HeaderAudit.Proofs.Text.Decimal
import HeaderAudit.Proofs.Message.Framing
import HeaderAudit.Proofs.Message.Address
import HeaderAudit.Proofs.Check.Policy
import HeaderAudit.Proofs.Check.Codec
import HeaderAudit.Proofs.Analysis.StatusChanges
import HeaderAudit.Proofs.Crawl.Breadth
import HeaderAudit.Proofs.Address.Escape
import HeaderAudit.Proofs.Address.Path
import HeaderAudit.Proofs.Address.Canonical
import HeaderAudit.Proofs.Check.Reporting
import HeaderAudit.Proofs.Highlight.Paint
import HeaderAudit.Proofs.Message.HeaderMap
import HeaderAudit.Proofs.Address.WebAddress
import HeaderAudit.Proofs.Exclusion.Matching
import HeaderAudit.Proofs.Compare.EditScript
import HeaderAudit.Proofs.Analysis.LineChanges
import HeaderAudit.Proofs.Exclusion.Codec
import HeaderAudit.Proofs.Scan.Startup
