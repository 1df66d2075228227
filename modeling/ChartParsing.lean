import ChartParsing.Chart.Graph
import ChartParsing.Chart.View
import ChartParsing.Demo
import ChartParsing.Edge.Edit
import ChartParsing.Grammar.Builder
import ChartParsing.Grammar.Layout
import ChartParsing.Main
import ChartParsing.Recognition.Report
import ChartParsing.Words.Tokenize
import ChartParsing.Proofs.Derivation
import ChartParsing.Proofs.Inferred
import ChartParsing.Proofs.AgendaLoop
import ChartParsing.Proofs.Tally
import ChartParsing.Proofs.Saturation
import ChartParsing.Proofs.Capacity
import ChartParsing.Proofs.Columns
import ChartParsing.Proofs.Contents
import ChartParsing.Proofs.Positions
import ChartParsing.Proofs.Answers
import ChartParsing.Proofs.Workload
import ChartParsing.Proofs.OrderIndependence
import ChartParsing.Proofs.Termination
import ChartParsing.Proofs.Checked
import ChartParsing.Proofs.Exhaustive
import ChartParsing.Proofs.Statistics
import ChartParsing.Proofs.Locality
import ChartParsing.Proofs.Monotonicity
import ChartParsing.Proofs.EventOrder
import ChartParsing.Proofs.ParseTrees
import ChartParsing.Proofs.Renaming
import ChartParsing.Proofs.StuckRules
import ChartParsing.Proofs.GreedyFill
import ChartParsing.Proofs.RuleLayout
import ChartParsing.Proofs.Widening
import ChartParsing.Proofs.Constituents
import ChartParsing.Proofs.ZooSentences
import ChartParsing.Proofs.ZooChart
import ChartParsing.Proofs.EdgeText
import ChartParsing.Proofs.ViewLines
import ChartParsing.Proofs.ChartText
import ChartParsing.Proofs.Selection
import ChartParsing.Proofs.Escaping
import ChartParsing.Proofs.GraphText
import ChartParsing.Proofs.Buckets
import ChartParsing.Proofs.FirstOccurrences
import ChartParsing.Proofs.Building
import ChartParsing.Proofs.EdgeHistory
import ChartParsing.Proofs.EdgeOrder
import ChartParsing.Proofs.SetHistory
import ChartParsing.Proofs.WaitingEdges
import ChartParsing.Proofs.PlainText
