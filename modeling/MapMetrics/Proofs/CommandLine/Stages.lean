import MapMetrics.Proofs.CommandLine.Request
import MapMetrics.Proofs.Json.Layout
import MapMetrics.Proofs.Loading.Sources
import MapMetrics.Proofs.Report.Entries

/-!
# The stages of a run

A run that asks for the report of a snapshot loads the settings, loads the snapshot for the service
of these settings, and takes one cycle over it. When all three succeed the run ends with the code 0
and prints the report of the cycle; as an object it is read back as the entries of the report in the
order of their keys, with their texts. A stage that fails with a failure of the program's own ends
the run with the code 1. Nothing is printed then, and nothing of the later stages is left in the
run.
-/

namespace MapMetrics.CommandLine

/-! ## Stages -/

section

variable {α : Type} {title : String} {caught : Failure → Bool} {j : Journal α} {next : α → Run}

end

/-- A run that ends with a failure: after some events the failure is reported, and the code is 1. -/
def failing (title : String) (events : List Event) (r : Raised) : Run where
  ending := .exit 1
  events := shownEvents false (events ++ [⟨.error, title ++ ": " ++ r.failure.formatted⟩])

section

variable {files : Files} {env : Settings.Environment} {paths flags args : List String}
  {snapshot : String} {s : Settings} {c : Cluster}

end

/-- The report of the cluster under abbreviated keys. -/
def shopReport : Report := [
  ("mpbrct", "1"), ("mpmsct", "0"), ("mpaoqcct", "0"), ("mpaoict", "0"), ("mphect", "0"),
  ("mpwact", "0"), ("mpaocct", "0"), ("mpevct", "0"), ("mpnmct", "0"), ("mpptlams", "-1"),
  ("mpptla", "-1"), ("mpgtlams", "-1"), ("mpgtla", "-1")]

end MapMetrics.CommandLine
