import FunctionalSize.Analysis
import FunctionalSize.Json.Parser
import FunctionalSize.Json.Value
import FunctionalSize.Model.Intake
import FunctionalSize.Report
import FunctionalSize.Toml.Document
import FunctionalSize.Text
import FunctionalSize.Table
import FunctionalSize.Text.Lowercase
import FunctionalSize.LineCount
import FunctionalSize.Survey
import FunctionalSize.Config
import FunctionalSize.FileTree
import FunctionalSize.CommandLine
import FunctionalSize.Command
import FunctionalSize.Main
import FunctionalSize.Proofs.Movements
import FunctionalSize.Proofs.Traversal
import FunctionalSize.Proofs.Reach
import FunctionalSize.Proofs.CallGraph
import FunctionalSize.Proofs.StableSort
import FunctionalSize.Proofs.ByteOrder
import FunctionalSize.Proofs.Report
import FunctionalSize.Proofs.LocalCounts
import FunctionalSize.Proofs.Analysis
import FunctionalSize.Proofs.Strategies
import FunctionalSize.Proofs.Oracle
import FunctionalSize.Proofs.Simulation
import FunctionalSize.Proofs.OracleOrder
import FunctionalSize.Proofs.Growth
import FunctionalSize.Proofs.ReachClosure
import FunctionalSize.Proofs.Rearrangement
import FunctionalSize.Proofs.Program
import FunctionalSize.Proofs.Agreement
import FunctionalSize.Proofs.Outline
import FunctionalSize.Proofs.RuleOverlay
import FunctionalSize.Proofs.Intake
import FunctionalSize.Proofs.JsonLexer
import FunctionalSize.Proofs.JsonParser
import FunctionalSize.Proofs.JsonLayout
import FunctionalSize.Proofs.JsonFields
import FunctionalSize.Proofs.ReportText
import FunctionalSize.Proofs.ModelText
import FunctionalSize.Proofs.SurveyText
import FunctionalSize.Proofs.BreadthFirst
import FunctionalSize.Proofs.DepthFirst
import FunctionalSize.Proofs.Discovery
import FunctionalSize.Proofs.LineLexer
import FunctionalSize.Proofs.TraversalHistory
import FunctionalSize.Proofs.EdgeProvenance
import FunctionalSize.Proofs.RuleOrder
import FunctionalSize.Proofs.OverlayLaws
import FunctionalSize.Proofs.MarkdownTable
import FunctionalSize.Proofs.WorklistLoops
import FunctionalSize.Proofs.MethodName
