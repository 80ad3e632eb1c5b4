import TransferHistory.Api.Error
import TransferHistory.Api.Response
import TransferHistory.Api.Router
import TransferHistory.Client.Call
import TransferHistory.Client.ChainNode
import TransferHistory.Client.SearchService
import TransferHistory.Config.Basic
import TransferHistory.Config.Environment
import TransferHistory.Config.Load
import TransferHistory.Config.Place
import TransferHistory.Config.Reading
import TransferHistory.Config.Setting
import TransferHistory.Config.Validation
import TransferHistory.Json.Basic
import TransferHistory.Json.Decode
import TransferHistory.Json.Printer
import TransferHistory.Json.Written
import TransferHistory.Launch.ConfigPath
import TransferHistory.Launch.EnvFile
import TransferHistory.Launch.Start
import TransferHistory.Log.Entry
import TransferHistory.Log.Filter
import TransferHistory.Main
import TransferHistory.Net.Address
import TransferHistory.Net.Base64
import TransferHistory.Net.Domain
import TransferHistory.Net.Host
import TransferHistory.Net.Punycode
import TransferHistory.Net.Url
import TransferHistory.Number.Binary64
import TransferHistory.Number.Extended
import TransferHistory.Number.Power
import TransferHistory.Number.Shortest
import TransferHistory.Ordered
import TransferHistory.Proofs.Api.Outcomes
import TransferHistory.Proofs.Json.Alike
import TransferHistory.Proofs.Ordered
import TransferHistory.Proofs.Query.Append
import TransferHistory.Proofs.Query.Clauses
import TransferHistory.Proofs.Query.Expression
import TransferHistory.Proofs.Query.Faults
import TransferHistory.Proofs.Query.Field
import TransferHistory.Proofs.Query.Isolation
import TransferHistory.Proofs.Query.LeadingInt
import TransferHistory.Proofs.Query.Meaning
import TransferHistory.Proofs.Query.Rearranging
import TransferHistory.Proofs.Query.Rendering
import TransferHistory.Proofs.Query.Shape
import TransferHistory.Proofs.Record.Reading
import TransferHistory.Proofs.Record.Reprojection
import TransferHistory.Proofs.Record.Steps
import TransferHistory.Proofs.Result
import TransferHistory.Proofs.Search.Hits
import TransferHistory.Proofs.Search.Paging
import TransferHistory.Proofs.Search.Runs
import TransferHistory.Proofs.Search.Validation
import TransferHistory.Proofs.Text.Split
import TransferHistory.Query.Clause
import TransferHistory.Query.Compiled
import TransferHistory.Query.Error
import TransferHistory.Query.Field
import TransferHistory.Query.Filter
import TransferHistory.Query.Form
import TransferHistory.Query.LeadingInt
import TransferHistory.Query.Page
import TransferHistory.Query.Params
import TransferHistory.Query.Shortcut
import TransferHistory.Query.SortOrder
import TransferHistory.Query.Track
import TransferHistory.Query.Window
import TransferHistory.Record.Basic
import TransferHistory.Record.Decode
import TransferHistory.Record.Enrichment
import TransferHistory.Record.Projection
import TransferHistory.Record.Shortening
import TransferHistory.ResultEq
import TransferHistory.Search.Engine
import TransferHistory.Search.Failure
import TransferHistory.Search.Hits
import TransferHistory.Search.Request
import TransferHistory.Text.Blank
import TransferHistory.Text.Digits
import TransferHistory.Text.Quoted
import TransferHistory.Text.Split
import TransferHistory.Text.Utf8
import TransferHistory.Text.Visible
import TransferHistory.Toml.DateTime
import TransferHistory.Toml.Document
import TransferHistory.Toml.Scalar
import TransferHistory.Toml.Table
import TransferHistory.Proofs.Record.Collapse
import TransferHistory.Proofs.Query.Unambiguous
import TransferHistory.Proofs.Record.Grammar
import TransferHistory.Proofs.Record.Reordering
import TransferHistory.Proofs.Client.Replies
import TransferHistory.Proofs.Record.Enrichment
import TransferHistory.Proofs.Record.Shortening
import TransferHistory.Proofs.Query.Stages
import TransferHistory.Proofs.Text.Utf8
import TransferHistory.Proofs.Query.LeadingIntWords
import TransferHistory.Proofs.Ordered.Collecting
import TransferHistory.Proofs.Query.Form
import TransferHistory.Proofs.Query.Canonical
import TransferHistory.Proofs.Client.BlankPages
import TransferHistory.Proofs.Query.Collisions
import TransferHistory.Proofs.Config.Omissions
import TransferHistory.Proofs.Config.Overrides
import TransferHistory.Proofs.Client.Addressing
import TransferHistory.Proofs.Launch.ConfigPath
