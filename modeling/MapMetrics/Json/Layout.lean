import MapMetrics.Report.Cycle
import MapMetrics.Text.Quoted

/-!
# Reports as JSON

A report is written as an object over several lines, one line an entry, in the order of its keys.
Texts are written in printable ASCII: what is not is escaped by its code units.
-/

namespace MapMetrics.Json

open Text

/-- One code unit as an escape. -/
def unitEscape (n : Nat) : List Char :=
  '\\' :: 'u' :: hexDigits 4 n

/-- One character inside a text. -/
def escapedChar (c : Char) : List Char :=
  match c with
  | '"' => ['\\', '"']
  | '\\' => ['\\', '\\']
  | '\n' => ['\\', 'n']
  | '\r' => ['\\', 'r']
  | '\t' => ['\\', 't']
  | '\x08' => ['\\', 'b']
  | '\x0c' => ['\\', 'f']
  | c =>
    let n := c.toNat
    if 0x20 ≤ n && n < 0x7F then [c]
    else if n < 0x10000 then unitEscape n
    else
      let beyond := n - 0x10000
      unitEscape (0xD800 + beyond / 0x400) ++ unitEscape (0xDC00 + beyond % 0x400)

/-- A text between its marks. -/
def writtenText (s : String) : List Char :=
  '"' :: s.toList.flatMap escapedChar ++ ['"']

/-- An entry on a line of its own, without the end of the line. -/
def writtenEntry (entry : String × String) : List Char :=
  "  ".toList ++ writtenText entry.1 ++ ": ".toList ++ writtenText entry.2

/-- Entries in the order of their keys. -/
def sortedEntries (report : Report) : Report :=
  report.mergeSort fun a b => a.1 ≤ b.1

/-- A report as an object, indented by two spaces. -/
def writeReport (report : Report) : String :=
  match sortedEntries report with
  | [] => "\x7b\x7d"
  | entries =>
    String.ofList ("\x7b\n".toList ++ [',', '\n'].intercalate (entries.map writtenEntry) ++
      "\n\x7d".toList)

end MapMetrics.Json
