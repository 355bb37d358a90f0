import MapMetrics.Number.Integer
import MapMetrics.Text.Utf8
import MapMetrics.Yaml.Scalar

/-!
# Tokens of YAML documents

The marks and words of a document, and the readers of those words that are no scalars: names of
anchors, tags and directives. Each reader takes the document from after the mark of the word on and
says what it read and how many characters it took.
-/

namespace MapMetrics.Yaml

/-- A line in front of a document that says how to read it. -/
inductive Directive where
  /-- The version of the format. -/
  | version (major minor : Nat)
  /-- What a handle in tags stands for. -/
  | handle (name : String) (meaning : String)
  /-- Any other directive, which is ignored. -/
  | other (name : String)
  deriving DecidableEq, Repr

/-- The tokens of a document. -/
inductive Token where
  /-- A directive. -/
  | directive (d : Directive)
  /-- The start of a document. -/
  | documentStart
  /-- The end of a document. -/
  | documentEnd
  /-- The start of a list by lines. -/
  | blockListStart
  /-- The start of a mapping by lines. -/
  | blockMappingStart
  /-- The end of a list or mapping by lines. -/
  | blockEnd
  /-- An opening bracket. -/
  | listStart
  /-- A closing bracket. -/
  | listEnd
  /-- An opening brace. -/
  | mappingStart
  /-- A closing brace. -/
  | mappingEnd
  /-- The mark of an item. -/
  | item
  /-- A comma. -/
  | comma
  /-- The start of a key. -/
  | key
  /-- The start of a value. -/
  | value
  /-- A reference to an anchor. -/
  | alias (name : String)
  /-- A name for the node that follows. -/
  | anchor (name : String)
  /-- A tag: a handle, unless the tag is given in full, and the rest. -/
  | tag (handle : Option String) (suffix : String)
  /-- A scalar, and whether it is plain. -/
  | scalar (plain : Bool) (text : String)
  /-- The end of the text. -/
  | streamEnd
  /-- Whatever comes here cannot be read. -/
  | broken (e : Error)
  deriving DecidableEq, Repr

/-- Something read from a document. -/
structure Read (α : Type) where
  /-- What was read. -/
  content : α
  /-- Characters taken. -/
  used : Nat

/-- The number of characters at the start of a text that are of a class. -/
def spanLength (p : Char → Bool) (cs : List Char) : Nat :=
  (cs.takeWhile p).length

/-- The name of an anchor or alias. -/
def readName (cs : List Char) : Scan (Read String) := do
  let n := spanLength isNameChar cs
  let ends (c : Char) := isBlankOrBreak c || "?:,]\x7d%@`".toList.contains c
  if n = 0 then refuse cs "expected a name of letters and digits"
  if nextIs ends (cs.drop n) then return ⟨String.ofList (cs.take n), n⟩
  refuse (cs.drop n) "expected a name of letters and digits, but found another character"

/-- The octets of a run of escapes, each a percent sign and two hexadecimal digits. -/
def escapedOctets : List Char → Scan (List UInt8)
  | '%' :: rest =>
    match rest with
    | a :: b :: more =>
      match Text.hexDigit? a, Text.hexDigit? b with
      | some x, some y => do return UInt8.ofNat (x * 16 + y) :: (← escapedOctets more)
      | some _, none => refuse (b :: more) "expected two hexadecimal digits in a tag"
      | none, _ => refuse rest "expected two hexadecimal digits in a tag"
    | _ => refuse rest "expected two hexadecimal digits in a tag"
  | _ => return []

/-- The text that a run of escapes stands for, which is known once the run is over. -/
def escapedText (cs : List Char) : Scan Piece := do
  let octets ← escapedOctets cs
  look (3 * octets.length + 1) cs
  match Text.Utf8.decode octets with
  | .ok text => return ⟨text, 3 * octets.length⟩
  | .error e => throw (some (Stage.tokens.error e.message))

/-- The characters of a tag, escapes included. The fuel is the length of the text. -/
def tagText : Nat → List Char → Scan Piece
  | 0, _ => return ⟨[], 0⟩
  | _, [] => return ⟨[], 0⟩
  | fuel + 1, c :: rest => do
    if isTagChar c then return (← tagText fuel rest).after [c] 1
    else if c = '%' then
      let p ← escapedText (c :: rest)
      return (← tagText fuel (rest.drop (p.used - 1))).after p.text p.used
    else return ⟨[], 0⟩

/-- The characters of a tag, at least one. -/
def readTagText (cs : List Char) : Scan (Read String) := do
  let p ← tagText cs.length cs
  if p.used = 0 then refuse cs "expected the characters of a tag"
  return ⟨String.ofList p.text, p.used⟩

/-- A handle: an exclamation mark, and possibly a name and another one. -/
def readHandle (cs : List Char) : Scan (Read String) :=
  match cs with
  | '!' :: rest => do
    if rest.head? == some ' ' then return ⟨"!", 1⟩
    let n := spanLength isNameChar rest
    if (rest.drop n).head? == some '!' then return ⟨String.ofList (cs.take (n + 2)), n + 2⟩
    refuse (rest.drop n) "expected an exclamation mark at the end of a handle"
  | _ => refuse cs "expected an exclamation mark at the start of a handle"

/-- A tag from after its exclamation mark: in full between angle brackets, the mark alone, or with
a handle when there is another mark before the next space, up to which it is looked for. -/
def readTag (cs : List Char) : Scan (Read (Option String × String)) := do
  let tag ← match cs with
    | '<' :: rest => do
      let full ← readTagText rest
      if (rest.drop full.used).head? == some '>' then
        pure (⟨(none, full.content), full.used + 2⟩ : Read (Option String × String))
      else refuse (rest.drop full.used) "expected an angle bracket at the end of a tag"
    | _ =>
      if ← lookFor isBlankOrBreak cs then pure ⟨(none, "!"), 0⟩
      else do
        let front := spanLength (fun c => c != '!' && !isSpaceOrBreak c) cs
        look (front + 1) cs
        if (cs.drop front).head? == some '!' then do
          let handle ← readHandle ('!' :: cs)
          let suffix ← readTagText (cs.drop (handle.used - 1))
          pure ⟨(some handle.content, suffix.content), handle.used - 1 + suffix.used⟩
        else do
          let suffix ← readTagText cs
          pure ⟨(some "!", suffix.content), suffix.used⟩
  if nextIs isSpaceOrBreak (cs.drop tag.used) then return tag
  refuse (cs.drop tag.used) "expected a space after a tag"

/-- A number of a version, which is taken from its digits once all of them are there. -/
private def number (cs : List Char) : Scan (Read Nat) := do
  let digits := (cs.takeWhile Char.isDigit).filterMap Text.asciiDigit?
  if digits.isEmpty then refuse cs "expected a digit"
  look (digits.length + 1) cs
  if Number.digitLimit < digits.length then
    throw (some (.impossible (Number.tooManyDigits (some digits.length))))
  return ⟨Text.digitsValue 10 digits, digits.length⟩

private def versionDirective (cs : List Char) : Scan (Read Directive) := do
  let spaces := spanLength (· == ' ') cs
  let major ← number (cs.drop spaces)
  let point := spaces + major.used
  if (cs.drop point).head? != some '.' then refuse (cs.drop point) "expected a digit or a point"
  let minor ← number (cs.drop (point + 1))
  let used := point + 1 + minor.used
  if !nextIs isSpaceOrBreak (cs.drop used) then
    refuse (cs.drop used) "expected a digit or a space"
  return ⟨.version major.content minor.content, used⟩

private def handleDirective (cs : List Char) : Scan (Read Directive) := do
  let spaces := spanLength (· == ' ') cs
  let handle ← readHandle (cs.drop spaces)
  let afterHandle := cs.drop (spaces + handle.used)
  if afterHandle.head? != some ' ' then refuse afterHandle "expected a space after a handle"
  let start := spaces + handle.used + spanLength (· == ' ') afterHandle
  let meaning ← readTagText (cs.drop start)
  let used := start + meaning.used
  if !nextIs isSpaceOrBreak (cs.drop used) then refuse (cs.drop used) "expected a space after a tag"
  return ⟨.handle handle.content meaning.content, used⟩

/-- A directive from after its percent sign, with the end of its line. -/
def readDirective (cs : List Char) : Scan (Read Directive) := do
  let n := spanLength isNameChar cs
  if n = 0 then refuse cs "expected the name of a directive"
  let rest := cs.drop n
  if !nextIs isSpaceOrBreak rest then refuse rest "expected a space after the name of a directive"
  let name := String.ofList (cs.take n)
  let d ← match name with
    | "YAML" => versionDirective rest
    | "TAG" => handleDirective rest
    | _ => pure ⟨.other name, spanLength (!isBreak ·) rest⟩
  let ignored ← ignoredLine (rest.drop d.used)
  return ⟨d.content, n + d.used + ignored⟩

end MapMetrics.Yaml
