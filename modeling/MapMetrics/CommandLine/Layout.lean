import MapMetrics.Json.Layout

/-!
# Reports as tables

A report is shown as a table of two columns under a title, in the order of its keys: keys on the
left, values against the right edge. The title stands in the middle, a little to the left if need
be. No line is wider than the page: where two columns do not fit, the wider one gives way, and what
does not fit in its column is cut short with an ellipsis.
-/

namespace MapMetrics.CommandLine

/-- Columns of a page. -/
def pageWidth : Nat := 80

/-- A text repeated. -/
def repeated (n : Nat) (s : String) : String :=
  String.join (List.replicate n s)

/-- A text with spaces after it. -/
def padRight (width : Nat) (s : String) : String :=
  s ++ repeated (width - s.length) " "

/-- A text with spaces before it. -/
def padLeft (width : Nat) (s : String) : String :=
  repeated (width - s.length) " " ++ s

/-- A text in the middle of spaces. -/
def centred (width : Nat) (s : String) : String :=
  padRight width (repeated ((width - s.length) / 2) " " ++ s)

/-- A text cut short to a width. -/
def shortened (width : Nat) (s : String) : String :=
  if s.length ≤ width then s else String.ofList (s.toList.take (width - 1)) ++ "…"

/-- Half of a number, where a half goes to the even neighbour. -/
def halfToEven (n : Nat) : Nat :=
  n / 2 + n % 2 * (n / 2 % 2)

/-- The widths of two columns that share some room. The wider column gives way until both are of one
width, and from there on both do. -/
def sharedWidths (room first second : Nat) : Nat × Nat :=
  let excess := first + second - room
  let first' := first - min excess (first - second)
  let second' := second - min excess (second - first)
  let rest := first' + second' - room
  (first' - halfToEven rest, second' - (rest - halfToEven rest))

/-- A line of a table: its two cells between marks. -/
def tableLine (mark : String) (keyWidth valueWidth : Nat) (key value : String) : String :=
  mark ++ " " ++ padRight keyWidth (shortened keyWidth key) ++ " " ++ mark ++ " " ++
    padLeft valueWidth (shortened valueWidth value) ++ " " ++ mark

/-- A rule of a table: two stretches between three joints. -/
def tableRule (keyWidth valueWidth : Nat) (left stretch middle right : String) : String :=
  left ++ repeated (keyWidth + 2) stretch ++ middle ++ repeated (valueWidth + 2) stretch ++ right

private def widest (texts : List String) : Nat :=
  (texts.map String.length).foldl max 0

/-- The columns of a line that marks and margins take. -/
def frameWidth : Nat := 7

/-- The lines of the table of a report. -/
def tableLines (report : Report) : List String :=
  let entries := Json.sortedEntries report
  let (keyWidth, valueWidth) := sharedWidths (pageWidth - frameWidth)
    (widest ("Key" :: entries.map (·.1))) (widest ("Value" :: entries.map (·.2)))
  let rule := tableRule keyWidth valueWidth
  [centred (keyWidth + valueWidth + frameWidth) "Map metrics",
   rule "┏" "━" "┳" "┓",
   tableLine "┃" keyWidth valueWidth "Key" "Value",
   rule "┡" "━" "╇" "┩"] ++
  entries.map (fun e => tableLine "│" keyWidth valueWidth e.1 e.2) ++
  [rule "└" "─" "┴" "┘"]

/-- The table of a report. -/
def writeTable (report : Report) : String :=
  String.join ((tableLines report).map (· ++ "\n"))

end MapMetrics.CommandLine
