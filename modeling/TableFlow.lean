import TableFlow.Column
import TableFlow.CommandLine.Invocation
import TableFlow.CommandLine.LogFilter
import TableFlow.CommandLine.Report
import TableFlow.CommandLine.Run
import TableFlow.CommandLine.Scan
import TableFlow.Counter
import TableFlow.Csv.Fault
import TableFlow.Csv.File
import TableFlow.Csv.Reader
import TableFlow.Csv.Writer
import TableFlow.Error
import TableFlow.Expr.Aggregate
import TableFlow.Expr.Basic
import TableFlow.Expr.Bind
import TableFlow.Expr.Callable
import TableFlow.Expr.Eval
import TableFlow.Expr.TextOp
import TableFlow.Failure
import TableFlow.Files.Fault
import TableFlow.Files.Path
import TableFlow.Files.System
import TableFlow.Frame
import TableFlow.Grouping.Basic
import TableFlow.Grouping.Conflict
import TableFlow.Grouping.GroupBy
import TableFlow.Grouping.Violation
import TableFlow.Json.Basic
import TableFlow.Json.Number
import TableFlow.Json.Reader
import TableFlow.Json.Record
import TableFlow.Json.Writer
import TableFlow.Main
import TableFlow.Number.Decimal
import TableFlow.Number.Digits
import TableFlow.Number.Double
import TableFlow.Number.Width
import TableFlow.Operator.Basic
import TableFlow.Operator.Batch
import TableFlow.Operator.Chain
import TableFlow.Operator.Collector
import TableFlow.Pattern.CharSet
import TableFlow.Pattern.ClassReader
import TableFlow.Pattern.Engine
import TableFlow.Pattern.Fault
import TableFlow.Pattern.Grammar
import TableFlow.Pattern.Lexer
import TableFlow.Pattern.Node
import TableFlow.Pattern.Reader
import TableFlow.Pipeline
import TableFlow.Profile.Column
import TableFlow.Profile.Convert
import TableFlow.Profile.Outlier
import TableFlow.Schema
import TableFlow.Settings
import TableFlow.Spec.Basic
import TableFlow.Spec.Build
import TableFlow.Spec.Json
import TableFlow.Spec.Run
import TableFlow.Spec.Validation
import TableFlow.Table
import TableFlow.Text.Case
import TableFlow.Text.CaseTable
import TableFlow.Text.CharClass
import TableFlow.Text.PrintableTable
import TableFlow.Text.Quoted
import TableFlow.Text.Utf8
import TableFlow.Text.WordTable
import TableFlow.Value.Basic
import TableFlow.Value.Hash
import TableFlow.Value.Json
import TableFlow.Value.Order
import TableFlow.Proofs.Operator.Opening
import TableFlow.Proofs.Spec.Operators
import TableFlow.Proofs.Spec.Soundness
import TableFlow.Proofs.CommandLine.Verdict
import TableFlow.Proofs.Json.Depth
import TableFlow.Proofs.Json.Layout
import TableFlow.Proofs.Json.Record
import TableFlow.Proofs.Operator.Outputs
import TableFlow.Proofs.Operator.Staging
import TableFlow.Proofs.Spec.RoundTrip
import TableFlow.Proofs.Spec.Tracking
import TableFlow.Proofs.Spec.Delivery
import TableFlow.Proofs.Spec.InPlace
import TableFlow.Proofs.Operator.Survivors
import TableFlow.Proofs.Pipeline.Head
import TableFlow.Proofs.Expr.Building
import TableFlow.Proofs.Expr.Errors
import TableFlow.Proofs.Operator.History
import TableFlow.Proofs.Operator.Phases
import TableFlow.Proofs.Number.Rounding
import TableFlow.Proofs.Value.Order
import TableFlow.Proofs.Pipeline.Shape
import TableFlow.Proofs.Operator.Collecting
import TableFlow.Proofs.Operator.Exhaustion
import TableFlow.Proofs.Spec.Completeness
import TableFlow.Proofs.Csv.RoundTrip
import TableFlow.Proofs.Spec.Totality
import TableFlow.Proofs.Value.Keys
import TableFlow.Proofs.Grouping.Counting
import TableFlow.Proofs.Grouping.Partition
import TableFlow.Proofs.Spec.Effects
import TableFlow.Proofs.Counter.FirstSeen
import TableFlow.Proofs.Grouping.Projection
import TableFlow.Proofs.Grouping.Dependency
import TableFlow.Proofs.Grouping.Conflict
import TableFlow.Proofs.Grouping.Additions
import TableFlow.Proofs.Expr.Extremes
import TableFlow.Proofs.Number.Totals
import TableFlow.Proofs.Expr.Sums
import TableFlow.Proofs.Expr.Safety
import TableFlow.Proofs.Schema.Cells
import TableFlow.Proofs.Operator.Naming
import TableFlow.Proofs.Expr.References
import TableFlow.Proofs.Operator.Mapping
import TableFlow.Proofs.Pipeline.Exchange
import TableFlow.Proofs.Pipeline.Fusion
import TableFlow.Proofs.Frame.ReadBack
import TableFlow.Proofs.Profile.Statistics
import TableFlow.Proofs.Profile.Typecast
import TableFlow.Proofs.Expr.Rebinding
import TableFlow.Proofs.Text.Trim
import TableFlow.Proofs.Number.Numerals
import TableFlow.Proofs.Profile.Conversion
import TableFlow.Proofs.Counter.History
import TableFlow.Proofs.Text.Case
import TableFlow.Proofs.Expr.Cleaning
