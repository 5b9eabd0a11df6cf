import LatencyChart.Main
import LatencyChart.Proofs.Chart.Figures
import LatencyChart.Proofs.Chart.Operations
import LatencyChart.Proofs.Chart.Permutation
import LatencyChart.Proofs.Chart.Span
import LatencyChart.Proofs.Chart.Summary
import LatencyChart.Proofs.Chart.Unfit
import LatencyChart.Proofs.CommandLine.Arrangement
import LatencyChart.Proofs.Course
import LatencyChart.Proofs.Series.Averages
import LatencyChart.Proofs.Series.Columns
import LatencyChart.Proofs.Series.Layout
import LatencyChart.Proofs.Series.RoundTrip
import LatencyChart.Proofs.Series.Source
import LatencyChart.Proofs.Series.StepBack
import LatencyChart.Proofs.Series.Summary
import LatencyChart.Proofs.Series.Unordered
import LatencyChart.Proofs.Sink.Agreement
import LatencyChart.Proofs.Message
import LatencyChart.Proofs.Sink.Extension
import LatencyChart.Proofs.Sink.Refusal
import LatencyChart.Proofs.Viewer
import LatencyChart.Proofs.Viewer.Redraw
