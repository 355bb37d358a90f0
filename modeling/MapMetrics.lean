import MapMetrics.Main
import MapMetrics.Planner.Convention
import MapMetrics.Proofs.Collector.FirstReport
import MapMetrics.Proofs.Collector.Metrics
import MapMetrics.Proofs.CommandLine.Stages
import MapMetrics.Proofs.Loading.Environment
import MapMetrics.Proofs.Loading.Unfilled
import MapMetrics.Proofs.Report.Effect
import MapMetrics.Proofs.Report.Isolation
import MapMetrics.Proofs.Report.Loaded
import MapMetrics.Proofs.Report.Mediant
import MapMetrics.Proofs.Report.Order
import MapMetrics.Proofs.Report.Sharing
import MapMetrics.Proofs.Validation.Spelling
