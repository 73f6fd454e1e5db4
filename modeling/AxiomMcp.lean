import AxiomMcp.Lib.Text
import AxiomMcp.Lib.Sorted
import AxiomMcp.Lib.Best
import AxiomMcp.Lib.Fallible
import AxiomMcp.Lib.Reach
import AxiomMcp.Lib.Search
import AxiomMcp.Lib.SearchOrder
import AxiomMcp.Lib.SearchPart
import AxiomMcp.Lib.Dict
import AxiomMcp.Lib.Json
import AxiomMcp.Lib.Utf8
import AxiomMcp.Lib.JsonText
import AxiomMcp.Lib.JsonParse
import AxiomMcp.Lib.JsonRound
import AxiomMcp.Lib.JsonEqual
import AxiomMcp.Lib.Recency
import AxiomMcp.Lib.Bisect
import AxiomMcp.Lib.Program
import AxiomMcp.Lib.Completion
import AxiomMcp.Lib.Traces
import AxiomMcp.Lib.Regex
import AxiomMcp.Lib.Splice
import AxiomMcp.Lib.Threads
import AxiomMcp.Exceptions
import AxiomMcp.Guard.Engine
import AxiomMcp.Guard.Waiting
import AxiomMcp.Guard.Table
import AxiomMcp.Guard.Acquire
import AxiomMcp.Guard.Release
import AxiomMcp.Guard.Invariant
import AxiomMcp.Guard.Ordered
import AxiomMcp.Guard.Discipline
import AxiomMcp.Guard.Processes
import AxiomMcp.Lifecycle.Model
import AxiomMcp.Lifecycle.Refused
import AxiomMcp.Lifecycle.Conduct
import AxiomMcp.Lifecycle.Counts
import AxiomMcp.Lifecycle.Shutdown
import AxiomMcp.Lifecycle.Uses
import AxiomMcp.Lifecycle.Queries
import AxiomMcp.Lib.Processes
import AxiomMcp.Gateway.Model
import AxiomMcp.Gateway.Commands
import AxiomMcp.Gateway.Operations
import AxiomMcp.Gateway.Notes
import AxiomMcp.Gateway.World
import AxiomMcp.Gateway.Observing
import AxiomMcp.Gateway.Requests
import AxiomMcp.Gateway.Stopping
import AxiomMcp.Snapshot.Canonical
import AxiomMcp.Query.Errors
import AxiomMcp.Query.Model
import AxiomMcp.Snapshot.Manifest
import AxiomMcp.Snapshot.Cache
import AxiomMcp.Snapshot.Faithful
import AxiomMcp.Snapshot.Catalog
import AxiomMcp.Snapshot.Closed
import AxiomMcp.Snapshot.Store
import AxiomMcp.Snapshot.Registry
import AxiomMcp.Snapshot.Pins
import AxiomMcp.Snapshot.Shards
import AxiomMcp.Snapshot.Session
import AxiomMcp.Snapshot.Loads
import AxiomMcp.Snapshot.SameGeneration
import AxiomMcp.Security.Tokens
import AxiomMcp.Security.CredentialFile
import AxiomMcp.Security.Redaction
import AxiomMcp.Security.Origins
import AxiomMcp.Security.Loopback
import AxiomMcp.Tools.Context
import AxiomMcp.Tools.Alone
import AxiomMcp.Tools.Source
import AxiomMcp.Tools.Query
import AxiomMcp.Tools.Defaults
import AxiomMcp.Tools.ChangeFacts
import AxiomMcp.Tools.ChangeSelection
import AxiomMcp.Tools.Status
import AxiomMcp.Tools.Delegation
import AxiomMcp.Tools.Cancel
import AxiomMcp.Tools.Confinement
import AxiomMcp.Tools.Refusals
import AxiomMcp.Tools.Dispatch
import AxiomMcp.Security.Replay
import AxiomMcp.Tools.CoverageReports
import AxiomMcp.Tools.Leaks
import AxiomMcp.Tools.Binding
import AxiomMcp.Tools.Vectors
import AxiomMcp.Tools.Retention
import AxiomMcp.Tools.Located
import AxiomMcp.Query.Selectors
import AxiomMcp.Query.Documents
import AxiomMcp.Query.FieldRules
import AxiomMcp.Query.DocumentsStrict
import AxiomMcp.Query.DocumentsLossless
import AxiomMcp.Query.Incident
import AxiomMcp.Query.Walk
import AxiomMcp.Query.WalkSearch
import AxiomMcp.Query.WalkExact
import AxiomMcp.Query.Traversal
import AxiomMcp.Query.Callers
import AxiomMcp.Query.Impact
import AxiomMcp.Query.ImpactSplit
import AxiomMcp.Query.Coverage
import AxiomMcp.Query.Neighborhood
import AxiomMcp.Query.Dependencies
import AxiomMcp.Query.Path
import AxiomMcp.Query.PathSearch
import AxiomMcp.Query.Narrowing
import AxiomMcp.Query.SearchResolve
import AxiomMcp.Query.PathExact
import AxiomMcp.Query.PathTrials
import AxiomMcp.Query.Totality
import AxiomMcp.Query.Search
import AxiomMcp.Query.SearchComplete
import AxiomMcp.Query.Changes
import AxiomMcp.Query.ChangesRender
import AxiomMcp.Query.ChangesPatch
import AxiomMcp.Query.Assembly
import AxiomMcp.Query.Replay
import AxiomMcp.Query.Cursor
import AxiomMcp.Query.CursorRuns
import AxiomMcp.Query.Vectors
import AxiomMcp.Query.Budget
import AxiomMcp.Query.BudgetCap
import AxiomMcp.Query.BudgetExact
import AxiomMcp.Query.Envelope
import AxiomMcp.Lib.Ends
import AxiomMcp.Release.Package
import AxiomMcp.Lib.Lines
import AxiomMcp.Transport.Stdin
import AxiomMcp.Gateway.Activity
import AxiomMcp.Tools.Recovery
import AxiomMcp.Transport.Control
import AxiomMcp.Security.Details
import AxiomMcp.Release.Entrypoints
import AxiomMcp.Release.Rollback
import AxiomMcp.Snapshot.Grammar
import AxiomMcp.Snapshot.RegistryDocument
import AxiomMcp.Lib.Links
import AxiomMcp.Snapshot.Inside
import AxiomMcp.Release.Install
import AxiomMcp.Update.Approval
import AxiomMcp.Update.Launch
import AxiomMcp.Release.Stopped
import AxiomMcp.Tools.Footprint
import AxiomMcp.Tools.Invisible
import AxiomMcp.Query.Presented
import AxiomMcp.Lib.Logs
import AxiomMcp.Tools.Shared
import AxiomMcp.Tools.Certified
import AxiomMcp.Lib.Decides
import AxiomMcp.Snapshot.Stored
import AxiomMcp.Tools.Stored
import AxiomMcp.Tools.Published
import AxiomMcp.Tools.Scopes
import AxiomMcp.Query.Warned
import AxiomMcp.Query.Encodable
import AxiomMcp.Query.Surrogates
import AxiomMcp.Tools.Listing
