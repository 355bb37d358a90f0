/-!
# Parts of a text

A mark divides a text into the parts that stand before, between and after its occurrences. There is
one part more than there are marks, and parts may be empty.
-/

namespace MapMetrics.Text

/-- The parts of a text between marks. -/
def parts (mark : Char) : List Char → List (List Char)
  | [] => [[]]
  | c :: rest =>
    if c = mark then [] :: parts mark rest
    else match parts mark rest with
      | [] => [[c]]
      | first :: others => (c :: first) :: others

end MapMetrics.Text
