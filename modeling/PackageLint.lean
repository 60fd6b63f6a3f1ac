import PackageLint.Checks.Basic
import PackageLint.Checks.Dependencies
import PackageLint.Checks.Macros
import PackageLint.Checks.Manifest
import PackageLint.Checks.Registry
import PackageLint.Checks.Resolved
import PackageLint.Checks.SourcePatterns
import PackageLint.Command.Environment
import PackageLint.Command.Inspection
import PackageLint.Command.Optimization
import PackageLint.Command.PatternScan
import PackageLint.Command.Reading
import PackageLint.Command.Validation
import PackageLint.CommandLine.Grammar
import PackageLint.CommandLine.Outcome
import PackageLint.CommandLine.Request
import PackageLint.Config.Basic
import PackageLint.Config.RuleFile
import PackageLint.Diagnostic.Basic
import PackageLint.Diagnostic.Report
import PackageLint.Diagnostic.Severity
import PackageLint.Document.Distinct
import PackageLint.Document.Value
import PackageLint.Document.Written
import PackageLint.File.Path
import PackageLint.File.Sources
import PackageLint.File.Tree
import PackageLint.Json.Reader
import PackageLint.Json.Writer
import PackageLint.Macros.Report
import PackageLint.Main
import PackageLint.Number.Binary64
import PackageLint.Number.Decimal
import PackageLint.Number.Rounding
import PackageLint.Output.Analysis
import PackageLint.Output.BuildLog
import PackageLint.Output.DependencyDrawing
import PackageLint.Output.DependencyGraph
import PackageLint.Output.Description
import PackageLint.Output.Overview
import PackageLint.Output.PackageDump
import PackageLint.Output.Reading
import PackageLint.Output.ResolvedPins
import PackageLint.Pattern.Basic
import PackageLint.Pattern.Reader
import PackageLint.Resolved.Files
import PackageLint.Resolved.Pin
import PackageLint.Routing.CaseStudies
import PackageLint.Routing.Category
import PackageLint.Routing.Decision
import PackageLint.Routing.Standard
import PackageLint.Rules.Evaluation
import PackageLint.Rules.Standard
import PackageLint.Rules.Table
import PackageLint.Run.Journal
import PackageLint.Service.Answer
import PackageLint.Service.Body
import PackageLint.Shell.Script
import PackageLint.Shell.Session
import PackageLint.Shell.Toolchain
import PackageLint.Shell.Word
import PackageLint.Source.Block
import PackageLint.Source.Check
import PackageLint.Source.Code
import PackageLint.Source.Composition
import PackageLint.Source.Dependency
import PackageLint.Source.Vocabulary
import PackageLint.Text.Blank
import PackageLint.Text.Case
import PackageLint.Text.CaseTable
import PackageLint.Text.Digit
import PackageLint.Text.Glob
import PackageLint.Text.Lines
import PackageLint.Text.Page
import PackageLint.Text.PrintableTable
import PackageLint.Text.Quoted
import PackageLint.Text.Search
import PackageLint.Text.Utf8
import PackageLint.Text.WordTable
import PackageLint.Toolchain.Basic
import PackageLint.Toolchain.Command
import PackageLint.Toolchain.Comparison
import PackageLint.Yaml.Cursor
import PackageLint.Yaml.Form
import PackageLint.Yaml.Node
import PackageLint.Yaml.Reader
import PackageLint.Yaml.ScalarText
import PackageLint.Yaml.Token
import PackageLint.Proofs.Dependency.Path
import PackageLint.Proofs.Dependency.Sighting
import PackageLint.Proofs.Dependency.Walk
import PackageLint.Proofs.Dependency.Document
import PackageLint.Proofs.Text.CarriageReturn
import PackageLint.Proofs.Json.CarriageReturn
import PackageLint.Proofs.Json.RoundTrip
import PackageLint.Proofs.Report.RoundTrip
import PackageLint.Proofs.Dependency.Drawing
import PackageLint.Proofs.Dependency.Formats
import PackageLint.Proofs.Outcome
import PackageLint.Proofs.Output.Readability
import PackageLint.Proofs.Text.Trim
import PackageLint.Proofs.Output.Success
import PackageLint.Proofs.Output.Restriction
import PackageLint.Proofs.Output.CarriageReturn
import PackageLint.Proofs.Resolved.Summary
import PackageLint.Proofs.Output.Pins
import PackageLint.Proofs.Command.Validation
import PackageLint.Proofs.Source.Block
import PackageLint.Proofs.Source.Verdict
import PackageLint.Proofs.Source.Body
import PackageLint.Proofs.Source.Comment
import PackageLint.Proofs.Source.Position
import PackageLint.Proofs.Rules.Evaluation
import PackageLint.Proofs.Rules.Entry
import PackageLint.Proofs.Rules.Document
import PackageLint.Proofs.File.Tree
import PackageLint.Proofs.File.Order
import PackageLint.Proofs.File.Sources
import PackageLint.Proofs.Checks.Discovery
import PackageLint.Proofs.Checks.Selection
import PackageLint.Proofs.Command.PatternScan
import PackageLint.Proofs.Command.Inspection
import PackageLint.Proofs.Dependency.Outline
import PackageLint.Proofs.Config.Loading
import PackageLint.Proofs.Output.BuildLog
import PackageLint.Proofs.Text.Search
import PackageLint.Proofs.Source.Scanner
import PackageLint.Proofs.Source.Literal
import PackageLint.Proofs.Source.Nesting
import PackageLint.Proofs.Json.Padding
import PackageLint.Proofs.Output.Padding
import PackageLint.Proofs.Report.Failure
import PackageLint.Proofs.Output.TargetFilter
import PackageLint.Proofs.Routing.Classification
import PackageLint.Proofs.Text.Words
import PackageLint.Proofs.Source.Levels
import PackageLint.Proofs.Source.Measure
import PackageLint.Proofs.Source.Counts
import PackageLint.Proofs.Routing.Decision
import PackageLint.Proofs.Output.PinVersion
