import ScientificResourceLab.Autonomy.Lanes
import ScientificResourceLab.Autonomy.Leakguard
import ScientificResourceLab.Autonomy.Leases
import ScientificResourceLab.Autonomy.LedgerFile
import ScientificResourceLab.Autonomy.Paths
import ScientificResourceLab.Bridge.Exporter
import ScientificResourceLab.Bridge.Sanitizer
import ScientificResourceLab.Bridge.Scan
import ScientificResourceLab.Cas.Completion
import ScientificResourceLab.Cas.Concurrency
import ScientificResourceLab.Cas.Engine
import ScientificResourceLab.Cas.Fallback
import ScientificResourceLab.Cas.Fsck
import ScientificResourceLab.Cas.Integrity
import ScientificResourceLab.Cas.Receipts
import ScientificResourceLab.Cas.Records
import ScientificResourceLab.Cas.Soundness
import ScientificResourceLab.Catalog.Cache
import ScientificResourceLab.Catalog.Containment
import ScientificResourceLab.Catalog.Identity
import ScientificResourceLab.Catalog.Registry
import ScientificResourceLab.Catalog.Snapshot
import ScientificResourceLab.Contracts.AsciiJson
import ScientificResourceLab.Contracts.Canonical
import ScientificResourceLab.Contracts.Decimals
import ScientificResourceLab.Contracts.Encoding
import ScientificResourceLab.Contracts.Instants
import ScientificResourceLab.Contracts.Reencoding
import ScientificResourceLab.Contracts.Sizes
import ScientificResourceLab.Contracts.Timestamps
import ScientificResourceLab.Execution.CappedReader
import ScientificResourceLab.Execution.FileCalls
import ScientificResourceLab.Execution.LocalSealing
import ScientificResourceLab.Execution.Materialize
import ScientificResourceLab.Execution.Orphans
import ScientificResourceLab.Execution.Policy
import ScientificResourceLab.Execution.Sealer
import ScientificResourceLab.Execution.Staging
import ScientificResourceLab.Graphs.DepthFirst
import ScientificResourceLab.Graphs.LeastOrder
import ScientificResourceLab.Graphs.MerkleTree
import ScientificResourceLab.Graphs.TopologicalOrder
import ScientificResourceLab.Integrations.MarketBridge
import ScientificResourceLab.Integrations.SharedContracts
import ScientificResourceLab.Integrations.Tampering
import ScientificResourceLab.Knowledge.Budgets
import ScientificResourceLab.Knowledge.Identity
import ScientificResourceLab.Knowledge.PayloadStore
import ScientificResourceLab.Knowledge.RateLimit
import ScientificResourceLab.Knowledge.Requests
import ScientificResourceLab.Knowledge.Retriever
import ScientificResourceLab.Knowledge.Tokens
import ScientificResourceLab.Mcp.Answers
import ScientificResourceLab.Mcp.Dispatch
import ScientificResourceLab.Mcp.Framing
import ScientificResourceLab.Mcp.Headers
import ScientificResourceLab.Mcp.Server
import ScientificResourceLab.Mcp.Sizes
import ScientificResourceLab.Mcp.Smuggling
import ScientificResourceLab.Packs.Admission
import ScientificResourceLab.Packs.Environment
import ScientificResourceLab.Packs.Extract
import ScientificResourceLab.Packs.ExtractReports
import ScientificResourceLab.Packs.ExtractedTrees
import ScientificResourceLab.Packs.LeanAxioms
import ScientificResourceLab.Packs.Manifest
import ScientificResourceLab.Packs.ManifestFailures
import ScientificResourceLab.Packs.ManifestRoundTrip
import ScientificResourceLab.Packs.Materialize
import ScientificResourceLab.Packs.MaterializeFrame
import ScientificResourceLab.Packs.Receipts
import ScientificResourceLab.Packs.SmtBuilders
import ScientificResourceLab.Packs.SmtCoverage
import ScientificResourceLab.Packs.SmtSorts
import ScientificResourceLab.Packs.SmtTerms
import ScientificResourceLab.Packs.TreeHash
import ScientificResourceLab.Packs.UnitConversion
import ScientificResourceLab.Packs.UnitNames
import ScientificResourceLab.Packs.UnitProducts
import ScientificResourceLab.Planning.Classifier
import ScientificResourceLab.Planning.Order
import ScientificResourceLab.Planning.Planner
import ScientificResourceLab.Planning.Router
import ScientificResourceLab.Portal.Build
import ScientificResourceLab.Portal.Escaping
import ScientificResourceLab.Portal.Leaks
import ScientificResourceLab.Portal.Objects
import ScientificResourceLab.Portal.Pages
import ScientificResourceLab.Portal.Pieces
import ScientificResourceLab.Python.DecimalArithmetic
import ScientificResourceLab.Python.Exceptions
import ScientificResourceLab.Python.FileSystem
import ScientificResourceLab.Python.FileTrees
import ScientificResourceLab.Python.Float64
import ScientificResourceLab.Python.FloatRounding
import ScientificResourceLab.Python.Json
import ScientificResourceLab.Python.JsonAscii
import ScientificResourceLab.Python.JsonNumbers
import ScientificResourceLab.Python.JsonOrder
import ScientificResourceLab.Python.JsonRoundTrip
import ScientificResourceLab.Python.JsonSearch
import ScientificResourceLab.Python.JsonSurvey
import ScientificResourceLab.Python.JsonWriting
import ScientificResourceLab.Python.Numerals
import ScientificResourceLab.Python.Objects
import ScientificResourceLab.Python.Patterns
import ScientificResourceLab.Python.Printable
import ScientificResourceLab.Python.Printing
import ScientificResourceLab.Python.Regex
import ScientificResourceLab.Python.RegexMatches
import ScientificResourceLab.Python.RegexSpans
import ScientificResourceLab.Python.RegexWords
import ScientificResourceLab.Python.Sha256
import ScientificResourceLab.Python.Spaces
import ScientificResourceLab.Python.StrictSha256
import ScientificResourceLab.Python.Strings
import ScientificResourceLab.Python.Substitution
import ScientificResourceLab.Python.Text
import ScientificResourceLab.Runtime.RemoteRouting
import ScientificResourceLab.Scheduler.Admission
import ScientificResourceLab.Scheduler.Aging
import ScientificResourceLab.Scheduler.Answers
import ScientificResourceLab.Scheduler.Checkpoints
import ScientificResourceLab.Scheduler.Dispatch
import ScientificResourceLab.Scheduler.Fairness
import ScientificResourceLab.Scheduler.FileSteps
import ScientificResourceLab.Scheduler.Inputs
import ScientificResourceLab.Scheduler.Operations
import ScientificResourceLab.Scheduler.Queue
import ScientificResourceLab.Scheduler.Records
import ScientificResourceLab.Scheduler.Roots
import ScientificResourceLab.Scheduler.Runs
import ScientificResourceLab.Scheduler.Sealing
import ScientificResourceLab.Scheduler.Sustained
import ScientificResourceLab.Semantic.Evidence
import ScientificResourceLab.Semantic.Lineage
import ScientificResourceLab.Semantic.MathIr
import ScientificResourceLab.Semantic.MathIrSchema
import ScientificResourceLab.Semantic.Profiles
import ScientificResourceLab.Semantic.Projection
import ScientificResourceLab.Semantic.Restriction
import ScientificResourceLab.Steps.CappedGrowth
import ScientificResourceLab.Steps.Checks
import ScientificResourceLab.Steps.Directory
import ScientificResourceLab.Steps.Fallible
import ScientificResourceLab.Steps.History
import ScientificResourceLab.Steps.Interleaving
import ScientificResourceLab.Steps.Invariants
import ScientificResourceLab.Steps.Program
import ScientificResourceLab.Steps.Reader
import ScientificResourceLab.Steps.StableSort
import ScientificResourceLab.Steps.TokenBucket
import ScientificResourceLab.Steps.Units
import ScientificResourceLab.Transport.Acknowledgements
import ScientificResourceLab.Transport.Answers
import ScientificResourceLab.Transport.Chain
import ScientificResourceLab.Transport.Delivery
import ScientificResourceLab.Transport.Evidence
import ScientificResourceLab.Transport.FileSteps
import ScientificResourceLab.Transport.HashChain
import ScientificResourceLab.Transport.Identity
import ScientificResourceLab.Transport.Imports
import ScientificResourceLab.Transport.Messages
import ScientificResourceLab.Transport.Receipts
import ScientificResourceLab.Transport.Reconciliation
import ScientificResourceLab.Transport.Recovery
import ScientificResourceLab.Transport.Requeueing
import ScientificResourceLab.Transport.Retries
import ScientificResourceLab.Transport.Signers
import ScientificResourceLab.Transport.Spool
import ScientificResourceLab.Transport.Verdicts
