import MapMetrics.Yaml.Feed
import MapMetrics.Yaml.Token

/-!
# From characters to tokens

A scalar in front of a colon is a key, but that is only known once the colon is met: until then it
is a possible key, one for every depth of brackets. When the colon comes, the tokens that start the
key are put in front of the scalar. A possible key lapses when its line ends or when it gets longer
than 1024 characters. So a token may only be handed on when no possible key stands in front of it,
and tokens wait in a queue until then. If the text cannot be read on, tokens that still wait are
lost.

Indentation opens and closes lists and mappings outside of brackets; it is counted by a stack of
columns.

A token is handed on when its characters and the one behind them have been looked at.
-/

namespace MapMetrics.Yaml

/-- A token and its place. -/
structure Lexeme where
  /-- Kind and content. -/
  token : Token
  /-- Where it starts. -/
  place : Place

/-- A scalar or collection that is a key if a colon follows. -/
structure PossibleKey where
  /-- The depth of brackets around it. -/
  depth : Nat
  /-- The number of its first token. -/
  number : Nat
  /-- Whether nothing but a key can stand here. -/
  required : Bool
  /-- Where it starts. -/
  start : Cursor

/-- The state between two tokens. -/
structure TokenStream where
  /-- What is left to read. -/
  cursor : Cursor
  /-- The error that comes where the characters are cut off. -/
  atLast : Option Error := none
  /-- Depth of brackets. -/
  depth : Nat := 0
  /-- Column of the innermost list or mapping by lines, -1 outside of all. -/
  indent : Int := -1
  /-- Columns of the lists and mappings around it. -/
  outer : List Int := []
  /-- Whether a key may start here. -/
  keyAllowed : Bool := true
  /-- Possible keys. -/
  keys : List PossibleKey := []
  /-- Tokens handed on, the last one first. -/
  ready : List Lexeme := []
  /-- Number of tokens handed on. -/
  count : Nat := 0
  /-- Tokens that wait. -/
  queue : List Lexeme := []

namespace TokenStream

/-- An error at the present place. -/
def fail {α : Type} (s : TokenStream) (reason : String) : Scan α :=
  throw (some (.unreadable .tokens reason (some s.cursor.place)))

/-- A reading whose error is one at the present place, unless it has a place. -/
def placed {α : Type} (s : TokenStream) (reading : Scan α) : Scan α :=
  reading.mapError (·.map (Error.orAt s.cursor.place))

/-- A state with one more token that waits. -/
def push (token : Token) (s : TokenStream) : TokenStream :=
  { s with queue := s.queue ++ [⟨token, s.cursor.place⟩] }

/-- A state after some characters. -/
def advance (n : Nat) (s : TokenStream) : TokenStream :=
  { s with cursor := s.cursor.advance n }

/-- A state with a token put before one that waits. -/
def insert (number : Nat) (token : Token) (start : Cursor) (s : TokenStream) : TokenStream :=
  let before := number - s.count
  { s with queue := s.queue.take before ++ ⟨token, start.place⟩ :: s.queue.drop before }

/-- The possible key at the present depth. -/
def key? (s : TokenStream) : Option PossibleKey :=
  s.keys.find? fun k => k.depth == s.depth

/-- A state without a possible key at the present depth. -/
def dropKey (s : TokenStream) : TokenStream :=
  { s with keys := s.keys.filter fun k => k.depth != s.depth }

/-- A required key must not be given up. -/
def refuseKey (s : TokenStream) (k : PossibleKey) : Scan Unit :=
  if k.required then s.fail "could not find expected ':' after a key" else .ok ()

/-- Gives up the possible key at the present depth. -/
def forgetKey (s : TokenStream) : Scan TokenStream := do
  if let some k := s.key? then s.refuseKey k
  return s.dropKey

/-- Notes that a possible key starts here. -/
def noteKey (s : TokenStream) : Scan TokenStream :=
  if s.keyAllowed then do
    let s ← s.forgetKey
    let required := s.depth = 0 && s.indent = s.cursor.column
    return { s with keys := s.keys ++ [⟨s.depth, s.count + s.queue.length, required, s.cursor⟩] }
  else .ok s

/-- A possible key has lapsed. -/
def hasLapsed (s : TokenStream) (k : PossibleKey) : Bool :=
  k.start.line != s.cursor.line || 1024 < s.cursor.index - k.start.index

/-- Gives up the possible keys that have lapsed. -/
def lapse (s : TokenStream) : Scan TokenStream := do
  (s.keys.filter s.hasLapsed).forM s.refuseKey
  return { s with keys := s.keys.filter fun k => !s.hasLapsed k }

/-- Hands on the tokens that wait, up to the first possible key. -/
def release (s : TokenStream) : TokenStream :=
  let wait := match (s.keys.map (·.number)).min? with
    | some first => first - s.count
    | none => s.queue.length
  { s with
    ready := (s.queue.take wait).reverse ++ s.ready
    count := s.count + (s.queue.take wait).length
    queue := s.queue.drop wait }

/-- Closes the lists and mappings by lines that are indented further than a column. -/
def unwind (column : Int) (s : TokenStream) : TokenStream :=
  if s.depth = 0 then
    let closed := (s.indent :: s.outer).takeWhile (column < ·)
    match (s.indent :: s.outer).drop closed.length with
    | indent :: outer =>
      closed.foldl (fun s _ => s.push .blockEnd) { s with indent := indent, outer := outer }
    | [] => s
  else s

/-- Opens a list or mapping by lines at a column; says whether it is new. -/
def deepen (column : Nat) (s : TokenStream) : TokenStream × Bool :=
  if s.indent < column then ({ s with indent := column, outer := s.indent :: s.outer }, true)
  else (s, false)

/-- Skips spaces, comments and ends of lines. The end of a line outside of brackets allows a key.
The fuel is the length of the rest. -/
def skipBlank : Nat → TokenStream → Scan TokenStream
  | 0, s => return s
  | fuel + 1, s => do
    let spaces := spanLength (· == ' ') s.cursor.rest
    let rest := s.cursor.rest.drop spaces
    let comment := if rest.head? == some '#' then spanLength (!isBreak ·) rest else 0
    look (comment + 1) rest
    match rest.drop comment with
    | c :: _ =>
      if isBreak c then
        let s := s.advance (spaces + comment + 1)
        skipBlank fuel { s with keyAllowed := s.keyAllowed || s.depth == 0 }
      else return s.advance (spaces + comment)
    | [] => return s.advance (spaces + comment)

/-- Goes to the next token. The mark of byte order may stand in front of all. -/
def toNext (s : TokenStream) : Scan TokenStream :=
  let s := if s.cursor.index == 0 && s.cursor.rest.head? == some '\uFEFF' then s.advance 1 else s
  skipBlank (s.cursor.rest.length + 1) s

/-- Pushes a token and goes on behind its characters. -/
def take (token : Token) (n : Nat) (s : TokenStream) : Scan TokenStream := do
  look (n + 1) s.cursor.rest
  return (s.push token).advance n

/-- A mark between documents, or a directive: all lists and mappings by lines are closed. -/
def betweenDocuments (s : TokenStream) : Scan TokenStream := do
  let s ← (s.unwind (-1)).forgetKey
  return { s with keyAllowed := false }

/-- The end of the text. -/
def atEnd (s : TokenStream) : Scan TokenStream := do
  let s ← s.betweenDocuments
  return { s with keys := [] }.push .streamEnd

/-- An opening bracket or brace. -/
def open_ (token : Token) (s : TokenStream) : Scan TokenStream := do
  let s ← s.noteKey
  { s with depth := s.depth + 1, keyAllowed := true }.take token 1

/-- A closing bracket or brace. -/
def close (token : Token) (s : TokenStream) : Scan TokenStream := do
  let s ← s.forgetKey
  { s with depth := s.depth - 1, keyAllowed := false }.take token 1

/-- A comma. -/
def comma (s : TokenStream) : Scan TokenStream := do
  let s ← { s with keyAllowed := true }.forgetKey
  s.take .comma 1

/-- A mark that opens a list or mapping by lines, if it is outside of brackets and stands further
in than the innermost. -/
def openLine (start : Token) (reason : String) (s : TokenStream) : Scan TokenStream :=
  if s.depth = 0 then
    if s.keyAllowed then
      let (s, new) := s.deepen s.cursor.column
      .ok (if new then s.push start else s)
    else s.fail reason
  else .ok s

/-- The mark of an item of a list by lines. -/
def item (s : TokenStream) : Scan TokenStream := do
  let s ← s.openLine .blockListStart "sequence entries are not allowed here"
  let s ← { s with keyAllowed := true }.forgetKey
  s.take .item 1

/-- The mark of a key. -/
def markedKey (s : TokenStream) : Scan TokenStream := do
  let s ← s.openLine .blockMappingStart "mapping keys are not allowed here"
  let s ← { s with keyAllowed := s.depth == 0 }.forgetKey
  s.take .key 1

/-- The mark of a value. If a possible key stands before it, that key is one now. -/
def value (s : TokenStream) : Scan TokenStream :=
  match s.key? with
  | some k =>
    let s := s.dropKey.insert k.number .key k.start
    let (s, new) := if s.depth = 0 then s.deepen k.start.column else (s, false)
    let s := if new then s.insert k.number .blockMappingStart k.start else s
    { s with keyAllowed := false }.take .value 1
  | none => do
    let s ← s.openLine .blockMappingStart "mapping values are not allowed here"
    let s ← { s with keyAllowed := s.depth == 0 }.forgetKey
    s.take .value 1

/-- A token that can be a key, or the start of one: `read` says what follows its mark. -/
def word {α : Type} (read : List Char → Scan (Read α)) (token : α → Token) (s : TokenStream) :
    Scan TokenStream := do
  let s ← s.noteKey
  let r ← s.placed (read (s.cursor.rest.drop 1))
  { s with keyAllowed := false }.take (token r.content) (r.used + 1)

private def quotedText (double : Bool) (cs : List Char) : Scan (Read String) := do
  let p ← readQuoted double cs
  return ⟨String.ofList p.text, p.used⟩

/-- A plain scalar. If it ends with the end of a line, a key may follow. -/
def plain (s : TokenStream) : Scan TokenStream := do
  let s ← s.noteKey
  let p ← readPlain (s.depth != 0) (s.indent + 1) s.cursor.rest
  { s with keyAllowed := p.broken }.take (.scalar true (String.ofList p.piece.text)) p.piece.used

/-- A scalar by lines. -/
def block (fold : Bool) (s : TokenStream) : Scan TokenStream := do
  let s ← { s with keyAllowed := true }.forgetKey
  let p ← s.placed (readBlock fold s.indent (s.cursor.rest.drop 1))
  s.take (.scalar false (String.ofList p.text)) (p.used + 1)

/-- A directive. -/
def directive (s : TokenStream) : Scan TokenStream := do
  let s ← s.betweenDocuments
  let r ← s.placed (readDirective (s.cursor.rest.drop 1))
  s.take (.directive r.content) (r.used + 1)

/-- The mark of the start or end of a document. -/
def separator (token : Token) (s : TokenStream) : Scan TokenStream := do
  let s ← s.betweenDocuments
  s.take token 3

/-- The characters that no plain scalar starts with. -/
def isIndicator (c : Char) : Bool :=
  "-?:,[]\x7b\x7d#&*!|>'\"%@`".toList.contains c

/-- A separator of documents comes next. -/
def atSeparator (s : TokenStream) (c : Char) (rest : List Char) : Scan Bool :=
  if s.cursor.column = 0 && (c == '-' || c == '.') then separatorAhead (c :: rest)
  else return false

/-- A mark, or the start of a plain scalar: outside of brackets only a blank behind it tells. -/
def mark (inBrackets : Bool) (marked : Scan TokenStream) (s : TokenStream) (rest : List Char) :
    Scan TokenStream := do
  if inBrackets && s.depth != 0 then marked
  else if ← lookFor isBlankOrBreak rest then marked
  else s.plain

/-- The token that starts with `c`. -/
def token (s : TokenStream) (c : Char) (rest : List Char) : Scan TokenStream := do
  if c = '%' && s.cursor.column = 0 then s.directive
  else if ← s.atSeparator c rest then
    s.separator (if c = '-' then .documentStart else .documentEnd)
  else if c = '[' then s.open_ .listStart
  else if c = '\x7b' then s.open_ .mappingStart
  else if c = ']' then s.close .listEnd
  else if c = '\x7d' then s.close .mappingEnd
  else if c = ',' then s.comma
  else if c = '-' then s.mark false s.item rest
  else if c = '?' then s.mark true s.markedKey rest
  else if c = ':' then s.mark true s.value rest
  else if c = '*' then s.word readName .alias
  else if c = '&' then s.word readName .anchor
  else if c = '!' then s.word readTag fun t => .tag t.1 t.2
  else if c = '|' && s.depth = 0 then s.block false
  else if c = '>' && s.depth = 0 then s.block true
  else if c = '\'' then s.word (quotedText false) (.scalar false)
  else if c = '"' then s.word (quotedText true) (.scalar false)
  else if !isBlankOrBreak c && !isIndicator c then s.plain
  else
    look 1 rest
    s.fail ("found character " ++ String.ofList ['\'', c, '\''] ++ " that cannot start any token")

/-- Reads the next token; says whether it was the last. -/
def next (s : TokenStream) : Scan (TokenStream × Bool) := do
  let s ← (← s.toNext).lapse
  let s := s.unwind s.cursor.column
  match s.cursor.rest with
  | [] => return (← s.atEnd, true)
  | c :: rest => return (← s.token c rest, false)

/-- Reads tokens to the end, or to what cannot be read. -/
def run : Nat → TokenStream → List Lexeme
  | 0, s => s.ready
  | fuel + 1, s =>
    let broken (e : Option Error) : List Lexeme :=
      ((e.or s.atLast).toList.map fun e => ⟨.broken e, s.cursor.place⟩) ++ s.ready
    match s.next with
    | .error e => broken e
    | .ok (s, true) => s.release.ready
    | .ok (s, false) =>
      match s.lapse with
      | .error e => broken e
      | .ok s => run fuel s.release

end TokenStream

/-- The tokens of a document. Every token but the last takes at least one character. -/
def tokens (feed : Feed) : List Lexeme :=
  (TokenStream.run (feed.chars.length + 2)
    { cursor := Cursor.start feed.text, atLast := feed.error }).reverse

end MapMetrics.Yaml
