import MapMetrics.Text.Digit
import MapMetrics.Yaml.Ahead

/-!
# Scalars of YAML documents

A scalar is written plain, quoted, or as a block of lines. However it is written, the ends of its
lines are folded: a single one becomes a space, and of several the first is dropped; only a block
can keep them. Each reader takes the document from the scalar on and says which text the scalar has
and how many characters it takes.
-/

namespace MapMetrics.Yaml

/-- A text read from a document. -/
structure Piece where
  /-- The text. -/
  text : List Char
  /-- Characters taken. -/
  used : Nat

/-- A piece with a text in front of it, which took some characters. -/
def Piece.after (text : List Char) (used : Nat) (p : Piece) : Piece :=
  ⟨text ++ p.text, used + p.used⟩

/-- Ends of lines as the text they leave: `first` is the end of the first line, and `more` are those
of the empty lines that follow. -/
def folded (first : Char) (more : List Char) : List Char :=
  if keptBreak first ≠ '\n' then keptBreak first :: more
  else if more.isEmpty then [' ']
  else more

/-! ## Plain scalars -/

/-- A plain scalar may not go on with `c`. Inside brackets more characters are marks. -/
def endsPlain (flow : Bool) (c : Char) (rest : List Char) : Bool :=
  let closesWord (d : Char) := isBlankOrBreak d || (flow && ",[]\x7b\x7d".toList.contains d)
  isBlankOrBreak c || (c == ':' && nextIs closesWord rest) ||
    (flow && ",?[]\x7b\x7d".toList.contains c)

/-- The characters up to the next that a plain scalar may not go on with. -/
def plainWord (flow : Bool) : List Char → List Char
  | [] => []
  | c :: rest => if endsPlain flow c rest then [] else c :: plainWord flow rest

/-- What stands between two words of a plain scalar. -/
structure Gap where
  /-- The text that it leaves. -/
  text : List Char
  /-- Characters taken. -/
  used : Nat
  /-- Whether it ends a line. -/
  broken : Bool
  /-- Column of the character after it, if it ends a line. -/
  column : Nat

/-- The gap after the end of a line, with the ends of the empty lines that follow as its text, and
whether a separator of documents follows. It is looked for after every end of a line. -/
def emptyLines (column : Nat) : List Char → Scan (Gap × Bool)
  | [] => return (⟨[], 0, true, column⟩, false)
  | c :: rest => do
    if c = ' ' then
      let (gap, separated) ← emptyLines (column + 1) rest
      return ({ gap with used := gap.used + 1 }, separated)
    else if isBreak c then
      if ← separatorAhead rest then return (⟨[], 1, true, 0⟩, true)
      let (gap, separated) ← emptyLines 0 rest
      return ({ gap with text := keptBreak c :: gap.text, used := gap.used + 1 }, separated)
    else return (⟨[], 0, true, column⟩, false)

/-- The gap at the start of a text. Without a text the scalar is over. -/
def plainGap (cs : List Char) : Scan Gap := do
  let spaces := cs.takeWhile (· == ' ')
  match cs.drop spaces.length with
  | c :: rest =>
    if isBreak c then
      if ← separatorAhead rest then return ⟨[], spaces.length + 1, true, 0⟩
      let (gap, separated) ← emptyLines 0 rest
      return { gap with
        text := if separated then [] else folded c gap.text
        used := spaces.length + 1 + gap.used }
    else return ⟨spaces, spaces.length, false, 0⟩
  | [] => return ⟨spaces, spaces.length, false, 0⟩

/-- A plain scalar, and whether it ends with the end of a line. -/
structure Plain where
  /-- The scalar with the gap after it. -/
  piece : Piece
  /-- Whether the last gap ends a line. -/
  broken : Bool

/-- A plain scalar. Outside of brackets it goes on only on lines that are indented by at least
`indent` columns. The fuel is the length of the text. -/
def plainFrom (flow : Bool) (indent : Int) : Nat → List Char → Scan Plain
  | 0, _ => return ⟨⟨[], 0⟩, false⟩
  | fuel + 1, cs => do
    let word := if cs.head? == some '#' then [] else plainWord flow cs
    look (word.length + 1) cs
    if word.isEmpty then return ⟨⟨[], 0⟩, false⟩
    let gap ← plainGap (cs.drop word.length)
    let rest := cs.drop (word.length + gap.used)
    let here : Plain := ⟨⟨word, word.length + gap.used⟩, gap.broken⟩
    if gap.text.isEmpty || (!flow && gap.broken && (gap.column : Int) < indent) then return here
    let more ← plainFrom flow indent fuel rest
    if more.piece.used = 0 then return here
    return ⟨more.piece.after (word ++ gap.text) here.piece.used, more.broken⟩

/-- The plain scalar at the start of a text. -/
def readPlain (flow : Bool) (indent : Int) (cs : List Char) : Scan Plain :=
  plainFrom flow indent cs.length cs

/-! ## Quoted scalars -/

/-- The character that one letter after a backslash stands for. -/
def escapeLetter? : Char → Option Char
  | '0' => some '\x00'
  | 'a' => some '\x07'
  | 'b' => some '\x08'
  | 't' => some '\t'
  | '\t' => some '\t'
  | 'n' => some '\n'
  | 'v' => some '\x0B'
  | 'f' => some '\x0C'
  | 'r' => some '\r'
  | 'e' => some '\x1B'
  | ' ' => some ' '
  | '"' => some '"'
  | '\\' => some '\\'
  | '/' => some '/'
  | 'N' => some '\u0085'
  | '_' => some '\u00A0'
  | 'L' => some '\u2028'
  | 'P' => some '\u2029'
  | _ => none

/-- The number of hexadecimal digits that follow a letter after a backslash. -/
def escapeWidth? : Char → Option Nat
  | 'x' => some 2
  | 'u' => some 4
  | 'U' => some 8
  | _ => none

/-- The character of a number. Half of a pair has none of its own and is replaced: texts that hold
one are left out here. -/
def numberedChar (n : Nat) : Except Error Char :=
  if 0x80000000 ≤ n then .error (.tooLarge "Python int too large to convert to C int")
  else if 0x110000 ≤ n then .error (.impossible "chr() arg not in range(0x110000)")
  else if 0xD800 ≤ n && n < 0xE000 then .ok '\uFFFD'
  else .ok (Char.ofNat n)

/-- Blanks and ends of lines inside a quoted scalar: the ends of the empty lines. A separator of
documents may not stand at the start of a line. -/
def quotedLines (atStart : Bool) (cs : List Char) : Scan Piece := do
  if atStart then
    if ← separatorAhead cs then
      refuse cs "found unexpected document separator in a quoted scalar"
  match cs with
  | [] => return ⟨[], 0⟩
  | c :: rest =>
    if isBlank c then return (← quotedLines false rest).after [] 1
    else if isBreak c then return (← quotedLines true rest).after [keptBreak c] 1
    else return ⟨[], 0⟩

/-- What a backslash and the text after it stand for. The backslash is not counted. Of the digits of
a number the first that is none is refused. -/
def quotedEscape (rest : List Char) : Scan Piece :=
  match rest with
  | [] => refuse rest "found unknown escape character in a quoted scalar"
  | letter :: more =>
    match escapeLetter? letter, escapeWidth? letter with
    | some c, _ => return ⟨[c], 1⟩
    | none, some width => do
      let digits := ((more.take width).map Text.hexDigit?).takeWhile (·.isSome)
      if digits.length < width then
        refuse (more.drop digits.length) "expected hexadecimal digits in a quoted scalar"
      let c ← (numberedChar (Text.digitsValue 16 (digits.filterMap id))).mapError some
      return ⟨[c], width + 1⟩
    | none, none => do
      if isBreak letter then return (← quotedLines true more).after [] 1
      refuse rest "found unknown escape character in a quoted scalar"

/-- Blanks and ends of lines inside a quoted scalar, as the text they leave. -/
def quotedSpace (cs : List Char) : Scan Piece := do
  let blanks := cs.takeWhile isBlank
  match cs.drop blanks.length with
  | [] => refuse [] "found unexpected end of stream in a quoted scalar"
  | c :: rest =>
    if isBreak c then
      let lines ← quotedLines true rest
      return ⟨folded c lines.text, blanks.length + 1 + lines.used⟩
    else return ⟨blanks, blanks.length⟩

/-- One step inside a quoted scalar; nothing at its end. -/
def quotedStep (double : Bool) (c : Char) (rest : List Char) : Scan (Option Piece) := do
  if isBlankOrBreak c then return some (← quotedSpace (c :: rest))
  else if double then
    if c = '"' then return none
    else if c = '\\' then return some ((← quotedEscape rest).after [] 1)
    else return some ⟨[c], 1⟩
  else if c = '\'' then
    match rest with
    | '\'' :: _ => return some ⟨['\''], 2⟩
    | _ => return none
  else return some ⟨[c], 1⟩

/-- The quoted scalar from after its opening mark, with its closing mark. -/
def readQuoted (double : Bool) (cs : List Char) : Scan Piece :=
  match cs with
  | [] => refuse [] "found unexpected end of stream in a quoted scalar"
  | c :: rest => do
    look 1 (c :: rest)
    match ← quotedStep double c rest with
    | none => return ⟨[], 1⟩
    | some p => return (← readQuoted double (rest.drop (p.used - 1))).after p.text p.used
  termination_by cs.length
  decreasing_by simp only [List.length_drop, List.length_cons]; omega

/-! ## Block scalars -/

/-- What becomes of the ends of lines at the end of a block. -/
inductive Chomping where
  /-- None is kept. -/
  | strip
  /-- The first is kept. -/
  | clip
  /-- All are kept. -/
  | keep
  deriving DecidableEq, Repr

/-- The heading of a block: what becomes of the last ends of lines, and the indentation when it is
given. -/
structure BlockHeading where
  /-- Last ends of lines. -/
  chomping : Chomping
  /-- Indentation relative to the surroundings, from 1 to 9. -/
  increment : Option Nat
  /-- Characters taken. -/
  used : Nat

private def chomping? : List Char → Option Chomping
  | '+' :: _ => some .keep
  | '-' :: _ => some .strip
  | _ => none

private def increment? (cs : List Char) : Option Nat :=
  cs.head?.bind Text.asciiDigit?

/-- The heading of a block: a sign and a digit in either order, both optional. -/
def blockHeading (cs : List Char) : Scan BlockHeading :=
  let checked (h : BlockHeading) : Scan BlockHeading := do
    if h.increment = some 0 then
      throw (some (Stage.tokens.error
        "expected an indentation indicator from 1 to 9, but found 0"))
    if nextIs isSpaceOrBreak (cs.drop h.used) then return h
    refuse (cs.drop h.used) "expected chomping or indentation indicators"
  match chomping? cs with
  | some sign =>
    match increment? (cs.drop 1) with
    | some n => checked ⟨sign, some n, 2⟩
    | none => checked ⟨sign, none, 1⟩
  | none =>
    match increment? cs with
    | some n =>
      match chomping? (cs.drop 1) with
      | some sign => checked ⟨sign, some n, 2⟩
      | none => checked ⟨.clip, some n, 1⟩
    | none => checked ⟨.clip, none, 0⟩

/-- The rest of a line that may only hold spaces and a comment, with its end. -/
def ignoredLine (cs : List Char) : Scan Nat := do
  let spaces := (cs.takeWhile (· == ' ')).length
  let comment := match cs.drop spaces with
    | '#' :: rest => 1 + (rest.takeWhile (!isBreak ·)).length
    | _ => 0
  match cs.drop (spaces + comment) with
  | [] => return spaces + comment
  | c :: rest =>
    if isBreak c then return spaces + comment + 1
    refuse (c :: rest) "expected a comment or a line break"

/-- Empty lines of a block, or what stands in front of its first line. -/
structure EmptyLines where
  /-- The ends of the lines. -/
  ends : List Char
  /-- Characters taken. -/
  used : Nat
  /-- Column of the character after them. -/
  column : Nat
  /-- The widest indentation met. -/
  widest : Nat

/-- Empty lines with more of them in front. -/
def EmptyLines.after (ends : List Char) (lines : EmptyLines) : EmptyLines :=
  { lines with ends := ends ++ lines.ends, used := lines.used + 1 }

/-- Empty lines in front of a block whose indentation is not given. -/
def leadingLines (column widest : Nat) : List Char → EmptyLines
  | [] => ⟨[], 0, column, widest⟩
  | c :: rest =>
    if c = ' ' then (leadingLines (column + 1) (max widest (column + 1)) rest).after []
    else if isBreak c then (leadingLines 0 widest rest).after [keptBreak c]
    else ⟨[], 0, column, widest⟩

/-- Empty lines of a block with a given indentation. Spaces beyond the indentation belong to a
line. -/
def blockLines (indent column : Nat) : List Char → EmptyLines
  | [] => ⟨[], 0, column, indent⟩
  | c :: rest =>
    if c = ' ' && column < indent then (blockLines indent (column + 1) rest).after []
    else if isBreak c then (blockLines indent 0 rest).after [keptBreak c]
    else ⟨[], 0, column, indent⟩

/-- What joins a line of a block to the next: its own end, unless the block is folded and neither
line starts with a blank. -/
def blockJoint (fold : Bool) (lineEnd : Char) (startsBlank nextStartsBlank : Bool)
    (emptyBetween : Bool) : List Char :=
  if fold && keptBreak lineEnd == '\n' && !startsBlank && !nextStartsBlank then
    if emptyBetween then [] else [' ']
  else [keptBreak lineEnd]

/-- The lines of a block from the first that is not empty, before which `column` columns stand. -/
def blockBody (fold : Bool) (chomping : Chomping) (indent column : Nat) (cs : List Char) : Piece :=
  match cs with
  | [] => ⟨[], 0⟩
  | c :: rest =>
    if column ≠ indent then ⟨[], 0⟩
    else
      let line := c :: rest.takeWhile (!isBreak ·)
      match rest.drop (line.length - 1) with
      | [] => ⟨line, line.length⟩
      | lineEnd :: after =>
        let empty := blockLines indent 0 after
        let next := rest.drop (line.length + empty.used)
        if empty.column = indent && !next.isEmpty then
          let joint := blockJoint fold lineEnd (isBlank c) (nextIs isBlank next)
            (!empty.ends.isEmpty)
          (blockBody fold chomping indent empty.column next).after (line ++ joint ++ empty.ends)
            (line.length + 1 + empty.used)
        else
          let tail := match chomping with
            | .strip => []
            | .clip => [keptBreak lineEnd]
            | .keep => keptBreak lineEnd :: empty.ends
          ⟨line ++ tail, line.length + 1 + empty.used⟩
  termination_by cs.length
  decreasing_by simp only [List.length_drop, List.length_cons]; omega

/-- The block from after its mark, inside surroundings that are indented by `outer` columns, or by
-1 outside of all. -/
def readBlock (fold : Bool) (outer : Int) (cs : List Char) : Scan Piece := do
  let heading ← blockHeading cs
  let ignored ← ignoredLine (cs.drop heading.used)
  let start := heading.used + ignored
  let least := max 1 (outer + 1).toNat
  let body := cs.drop start
  let leading := match heading.increment with
    | none => leadingLines 0 0 body
    | some n => blockLines (least + n - 1) 0 body
  let indent := match heading.increment with
    | none => max least leading.widest
    | some n => least + n - 1
  let rest := body.drop leading.used
  let piece := if leading.column = indent && !rest.isEmpty then
      (blockBody fold heading.chomping indent indent rest).after leading.ends leading.used
    else ⟨if heading.chomping = .keep then leading.ends else [], leading.used⟩
  return piece.after [] start

end MapMetrics.Yaml
