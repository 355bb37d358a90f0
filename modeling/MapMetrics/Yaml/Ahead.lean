import MapMetrics.Yaml.Character
import MapMetrics.Yaml.Error

/-!
# Looking ahead

The characters of a document come in portions. A portion that cannot be had is an error as soon as
one of its characters is looked at, and no sooner. So where it would begin a mark stands, and a
reader says which characters it looks at: if the mark is among them, it fails for that, before it
can fail for a reason of its own.
-/

namespace MapMetrics.Yaml

/-- The mark where the characters are cut off, which no document holds. -/
def cut : Char := '\x00'

/-- A reading of characters. It fails without an error of its own when it looks at the mark. -/
abbrev Scan := Except (Option Error)

/-- Looks at characters at the start of a text. The end of the document can be looked at, too. -/
def look (count : Nat) (cs : List Char) : Scan Unit :=
  if (cs.take count).contains cut then throw none else return ()

/-- Refuses the character at the start of a text, or the end of the document. -/
def refuse {α : Type} (cs : List Char) (reason : String) : Scan α := do
  look 1 cs
  let stage := if cs.isEmpty then Stage.ending else Stage.tokens
  throw (some (stage.error reason))

/-- A character of a class comes next, or the end of the document. -/
def lookFor (p : Char → Bool) (cs : List Char) : Scan Bool := do
  look 1 cs
  return nextIs p cs

/-- Three marks, and nothing more of a word, separate documents. Three characters are looked at in
any case, and the one behind them only if they are such marks. -/
def separatorAhead (cs : List Char) : Scan Bool := do
  look 3 cs
  match cs with
  | '-' :: '-' :: '-' :: rest => lookFor isBlankOrBreak rest
  | '.' :: '.' :: '.' :: rest => lookFor isBlankOrBreak rest
  | _ => return false

end MapMetrics.Yaml
