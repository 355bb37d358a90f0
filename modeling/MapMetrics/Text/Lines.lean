/-!
# Lines of a text

Files end their lines in three ways; reading makes one of them. A place in a text is a number of
characters, and is shown as the line and the column that it falls on, both counted from one.
-/

namespace MapMetrics.Text

/-- Every line end, whether a return, a feed or the pair of them, becomes a feed. -/
def unifyLineEnds : List Char → List Char
  | '\r' :: '\n' :: rest => '\n' :: unifyLineEnds rest
  | '\r' :: rest => '\n' :: unifyLineEnds rest
  | c :: rest => c :: unifyLineEnds rest
  | [] => []

/-- The line of the place after `index` characters. -/
def lineAt (cs : List Char) (index : Nat) : Nat :=
  (cs.take index).count '\n' + 1

/-- The column of the place after `index` characters. -/
def columnAt (cs : List Char) (index : Nat) : Nat :=
  ((cs.take index).reverse.takeWhile (· != '\n')).length + 1

end MapMetrics.Text
