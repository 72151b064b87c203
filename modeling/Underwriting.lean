import Underwriting.Application.Basic
import Underwriting.Application.Document
import Underwriting.Breakdown
import Underwriting.Cli.Arguments
import Underwriting.Cli.Session
import Underwriting.Config.EnvFile
import Underwriting.Config.Environment
import Underwriting.Config.IpAddress
import Underwriting.Config.Limits
import Underwriting.Config.LogFilter
import Underwriting.Config.LogSelection
import Underwriting.Config.Settings
import Underwriting.Directory.Basic
import Underwriting.Directory.Catalog
import Underwriting.Directory.Seed
import Underwriting.Duration
import Underwriting.Evaluation.Document
import Underwriting.Evaluation.Engine
import Underwriting.Evaluation.Result
import Underwriting.Evaluation.Rules
import Underwriting.Evaluation.Score
import Underwriting.FatalError
import Underwriting.Field.Path
import Underwriting.Field.Target
import Underwriting.Field.Value
import Underwriting.Http.Api
import Underwriting.Http.MediaType
import Underwriting.Http.Message
import Underwriting.Http.RequestTarget
import Underwriting.Http.Route
import Underwriting.Http.Token
import Underwriting.Identifier
import Underwriting.Json.Basic
import Underwriting.Json.Decoder
import Underwriting.Json.Literal
import Underwriting.Json.NumberForm
import Underwriting.Json.Source
import Underwriting.Json.Token
import Underwriting.Main
import Underwriting.Number.Binary64
import Underwriting.Number.Reading
import Underwriting.Number.Shortest
import Underwriting.Pattern.Basic
import Underwriting.Pattern.Class
import Underwriting.Pattern.Escape
import Underwriting.Pattern.Reader
import Underwriting.Pattern.Support
import Underwriting.Policy.Basic
import Underwriting.Policy.Compiled
import Underwriting.Policy.Document
import Underwriting.Policy.Error
import Underwriting.Policy.RuleTree
import Underwriting.Program.Basic
import Underwriting.Program.Document
import Underwriting.RecordError
import Underwriting.Register
import Underwriting.Run.Basic
import Underwriting.Run.Closing
import Underwriting.Run.Document
import Underwriting.Run.Report
import Underwriting.Run.Store
import Underwriting.Service.Basic
import Underwriting.Service.FanIn
import Underwriting.Service.Flight
import Underwriting.Service.Plan
import Underwriting.Service.Pool
import Underwriting.Service.Sample
import Underwriting.Text.Alphabetic
import Underwriting.Text.Alphanumeric
import Underwriting.Text.Blank
import Underwriting.Text.Hexadecimal
import Underwriting.Text.Numeral
import Underwriting.Text.Percent
import Underwriting.Text.Slice
import Underwriting.Text.Split
import Underwriting.Timestamp.Basic
import Underwriting.Timestamp.Text
import Underwriting.Proofs.Config.EnvFile
import Underwriting.Proofs.Config.Settings
import Underwriting.Proofs.Directory.Acceptance
import Underwriting.Proofs.Directory.CatalogHistory
import Underwriting.Proofs.Directory.Snapshot
import Underwriting.Proofs.Documents.Plain
import Underwriting.Proofs.Documents.ReadBack
import Underwriting.Proofs.Documents.RoundTrip
import Underwriting.Proofs.Evaluation.Charges
import Underwriting.Proofs.Evaluation.Dependence
import Underwriting.Proofs.Evaluation.IdleDeductions
import Underwriting.Proofs.Evaluation.Membership
import Underwriting.Proofs.Evaluation.Outcomes
import Underwriting.Proofs.Evaluation.Reasons
import Underwriting.Proofs.Evaluation.Reporting
import Underwriting.Proofs.Evaluation.Resolution
import Underwriting.Proofs.Evaluation.ScoreBounds
import Underwriting.Proofs.Evaluation.Scoring
import Underwriting.Proofs.Evaluation.Verdicts
import Underwriting.Proofs.Evaluation.WholeScores
import Underwriting.Proofs.Field.Binding
import Underwriting.Proofs.Field.Grammar
import Underwriting.Proofs.Http.Address
import Underwriting.Proofs.Http.Interface
import Underwriting.Proofs.Http.Validation
import Underwriting.Proofs.Json.Gives
import Underwriting.Proofs.Json.Ordered
import Underwriting.Proofs.Json.ReadBack
import Underwriting.Proofs.Number.CanonicalText
import Underwriting.Proofs.Number.Equality
import Underwriting.Proofs.Number.Finite
import Underwriting.Proofs.Number.Order
import Underwriting.Proofs.Number.Positive
import Underwriting.Proofs.Number.Rounding
import Underwriting.Proofs.Number.Shortest
import Underwriting.Proofs.Number.TotalOrder
import Underwriting.Proofs.Number.Whole
import Underwriting.Proofs.Policy.Pass
import Underwriting.Proofs.Policy.RuleDefects
import Underwriting.Proofs.Policy.ScoringDefects
import Underwriting.Proofs.Policy.TreeShape
import Underwriting.Proofs.ProgramOrder
import Underwriting.Proofs.Run.Closing
import Underwriting.Proofs.Run.Conclusion
import Underwriting.Proofs.Run.Course
import Underwriting.Proofs.Run.Listing
import Underwriting.Proofs.Run.Ranking
import Underwriting.Proofs.Service.CatalogRuns
import Underwriting.Proofs.Service.Collection
import Underwriting.Proofs.Service.Completion
import Underwriting.Proofs.Service.Courses
import Underwriting.Proofs.Service.Failure
import Underwriting.Proofs.Service.FiniteScores
import Underwriting.Proofs.Service.FirstStep
import Underwriting.Proofs.Service.History
import Underwriting.Proofs.Service.Interleaving
import Underwriting.Proofs.Service.Isolation
import Underwriting.Proofs.Service.Judgement
import Underwriting.Proofs.Service.Lifecycle
import Underwriting.Proofs.Service.Meaning
import Underwriting.Proofs.Service.Ownership
import Underwriting.Proofs.Service.Path
import Underwriting.Proofs.Service.Permits
import Underwriting.Proofs.Service.Pooling
import Underwriting.Proofs.Service.Provenance
import Underwriting.Proofs.Service.Reports
import Underwriting.Proofs.Service.Schedules
import Underwriting.Proofs.Text.Numeral
import Underwriting.Proofs.Text.Split
import Underwriting.Proofs.Timestamp.ReadBack
