import DivisionBenchmark.BenchmarkError
import DivisionBenchmark.CommandLine.Help
import DivisionBenchmark.CommandLine.LogFilter
import DivisionBenchmark.CommandLine.Options
import DivisionBenchmark.CommandLine.Overrides
import DivisionBenchmark.CommandLine.Parameter
import DivisionBenchmark.CommandLine.Parsing
import DivisionBenchmark.Config.Decoding
import DivisionBenchmark.Config.Loading
import DivisionBenchmark.Config.Settings
import DivisionBenchmark.Config.Validity
import DivisionBenchmark.Count
import DivisionBenchmark.Failure
import DivisionBenchmark.Fault
import DivisionBenchmark.Identity
import DivisionBenchmark.Kernel.Operation
import DivisionBenchmark.Kernel.Sweep
import DivisionBenchmark.Kernel.Unsigned
import DivisionBenchmark.Latency.Bucket
import DivisionBenchmark.Latency.Histogram
import DivisionBenchmark.Latency.Tally
import DivisionBenchmark.Machine.CoreList
import DivisionBenchmark.Machine.FileTree
import DivisionBenchmark.Machine.Files
import DivisionBenchmark.Main
import DivisionBenchmark.Measurement.Runner
import DivisionBenchmark.Measurement.Statistics
import DivisionBenchmark.Measurement.Timed
import DivisionBenchmark.Number.Binary64
import DivisionBenchmark.Number.Dyadic
import DivisionBenchmark.Number.Rounding
import DivisionBenchmark.Number.Shortest
import DivisionBenchmark.Operand.Buffers
import DivisionBenchmark.Operand.DivisorType
import DivisionBenchmark.Operand.Source
import DivisionBenchmark.Operand.Trial
import DivisionBenchmark.Pattern.CharacterSet
import DivisionBenchmark.Pattern.Part
import DivisionBenchmark.Pattern.Primitive
import DivisionBenchmark.Pattern.Syntax
import DivisionBenchmark.Program
import DivisionBenchmark.Proofs.CommandLine.Switches
import DivisionBenchmark.Proofs.Config.Layers
import DivisionBenchmark.Proofs.Config.Soundness
import DivisionBenchmark.Proofs.Kernel.Dependence
import DivisionBenchmark.Proofs.Kernel.History
import DivisionBenchmark.Proofs.Kernel.Literal
import DivisionBenchmark.Proofs.Kernel.Outcome
import DivisionBenchmark.Proofs.Kernel.Reading
import DivisionBenchmark.Proofs.Kernel.Succession
import DivisionBenchmark.Proofs.Latency.Extremes
import DivisionBenchmark.Proofs.Latency.Samples
import DivisionBenchmark.Proofs.Latency.Size
import DivisionBenchmark.Proofs.Measurement.Accounting
import DivisionBenchmark.Proofs.Measurement.Clocked
import DivisionBenchmark.Proofs.Measurement.Events
import DivisionBenchmark.Proofs.Measurement.Failures
import DivisionBenchmark.Proofs.Measurement.Laps
import DivisionBenchmark.Proofs.Measurement.Merging
import DivisionBenchmark.Proofs.Measurement.Order
import DivisionBenchmark.Proofs.Measurement.Timetable
import DivisionBenchmark.Proofs.Operand.Generation
import DivisionBenchmark.Proofs.Operand.Splitting
import DivisionBenchmark.Proofs.Operand.Stream
import DivisionBenchmark.Proofs.Program.DryRun
import DivisionBenchmark.Proofs.Report.Estimate
import DivisionBenchmark.Report.Delivery
import DivisionBenchmark.Report.Document
import DivisionBenchmark.Report.Json
import DivisionBenchmark.Report.Plan
import DivisionBenchmark.Report.Table
import DivisionBenchmark.Text.Alphanumeric
import DivisionBenchmark.Text.Blank
import DivisionBenchmark.Text.Columns
import DivisionBenchmark.Text.ControlSequence
import DivisionBenchmark.Text.Cut
import DivisionBenchmark.Text.LetterCase
import DivisionBenchmark.Text.Lowercase
import DivisionBenchmark.Text.Numeral
import DivisionBenchmark.Text.Quoted
import DivisionBenchmark.Text.Ranges
import DivisionBenchmark.Text.Reader
import DivisionBenchmark.Text.Split
import DivisionBenchmark.Text.Unprinted
import DivisionBenchmark.Time.Duration
import DivisionBenchmark.Time.IterationTime
import DivisionBenchmark.Time.Rate
import DivisionBenchmark.Time.Timestamp
import DivisionBenchmark.Toml.Document
import DivisionBenchmark.Toml.Lexeme
import DivisionBenchmark.Toml.Number
import DivisionBenchmark.Toml.Table
import DivisionBenchmark.Toml.Value
import DivisionBenchmark.Proofs.Number.Nearest
import DivisionBenchmark.Proofs.Latency.Ascending
import DivisionBenchmark.Proofs.Latency.Percentiles
import DivisionBenchmark.Proofs.Machine.CoreGrammar
import DivisionBenchmark.Proofs.Text.Lowering
import DivisionBenchmark.Proofs.Time.Spelling
import DivisionBenchmark.Proofs.Config.GivenTime
import DivisionBenchmark.Proofs.Time.Covering
import DivisionBenchmark.Proofs.Kernel.Spelling
import DivisionBenchmark.Proofs.Machine.CoreSearch
import DivisionBenchmark.Proofs.Config.Pinning
import DivisionBenchmark.Proofs.Config.Checks
import DivisionBenchmark.Proofs.CommandLine.EarlyChecks
import DivisionBenchmark.Proofs.Operand.Preimage
import DivisionBenchmark.Proofs.Number.Places
import DivisionBenchmark.Proofs.Time.ShownUnit
import DivisionBenchmark.Proofs.Report.Texts
import DivisionBenchmark.Proofs.Report.Unspaced
import DivisionBenchmark.Proofs.Report.Members
import DivisionBenchmark.Proofs.Report.Layouts
