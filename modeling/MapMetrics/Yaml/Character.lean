/-!
# Characters of YAML documents

The classes of characters that the rules of documents speak of, and the place of a character as
it is counted for indentation.
-/

namespace MapMetrics.Yaml

/-- The characters that end a line. -/
def isBreak (c : Char) : Bool :=
  c == '\n' || c == '\u0085' || c == '\u2028' || c == '\u2029'

/-- A space or a tab. -/
def isBlank (c : Char) : Bool :=
  c == ' ' || c == '\t'

/-- A space or the end of a line. -/
def isSpaceOrBreak (c : Char) : Bool :=
  c == ' ' || isBreak c

/-- A blank or the end of a line. -/
def isBlankOrBreak (c : Char) : Bool :=
  isBlank c || isBreak c

/-- The characters of names and of the handles of tags. -/
def isNameChar (c : Char) : Bool :=
  c.isAlphanum || c == '-' || c == '_'

/-- The characters of tags, apart from escapes. -/
def isTagChar (c : Char) : Bool :=
  c.isAlphanum || "-;/?:@&=+$,_.!~*'()[]".toList.contains c

/-- The characters that a document may hold. -/
def isAllowed (c : Char) : Bool :=
  let n := c.toNat
  n == 0x09 || n == 0x0A || n == 0x0D || (0x20 ≤ n && n ≤ 0x7E) || n == 0x85 ||
    (0xA0 ≤ n && n ≤ 0xD7FF) || (0xE000 ≤ n && n ≤ 0xFFFD) || 0x10000 ≤ n

/-- The end of a line as it is kept in a text. -/
def keptBreak (c : Char) : Char :=
  if c == '\u2028' || c == '\u2029' then c else '\n'

/-- A property of the next character that also the end of the document has. -/
def nextIs (p : Char → Bool) : List Char → Bool
  | [] => true
  | c :: _ => p c

/-- The document from a character on, with the place of that character counted from zero. The mark
of byte order takes no column. -/
structure Cursor where
  /-- What is left of the document. -/
  rest : List Char
  /-- Characters before. -/
  index : Nat
  /-- Lines before. -/
  line : Nat
  /-- Columns before. -/
  column : Nat

namespace Cursor

/-- The start of a document. -/
def start (cs : List Char) : Cursor :=
  ⟨cs, 0, 0, 0⟩

/-- The cursor after the next character. -/
def step (c : Cursor) : Cursor :=
  match c.rest with
  | [] => c
  | next :: rest =>
    if isBreak next then ⟨rest, c.index + 1, c.line + 1, 0⟩
    else ⟨rest, c.index + 1, c.line, c.column + if next == '\uFEFF' then 0 else 1⟩

/-- The cursor after some characters. -/
def advance : Nat → Cursor → Cursor
  | 0, c => c
  | n + 1, c => advance n c.step

end Cursor

end MapMetrics.Yaml
