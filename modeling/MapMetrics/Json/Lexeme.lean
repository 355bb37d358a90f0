import MapMetrics.Number.Literal
import MapMetrics.Value

/-!
# Lexemes of JSON documents

A document is a sequence of lexemes between blanks: marks, texts, numbers and words. A character
that begins no lexeme is a stray, and a text that breaks off takes the rest of the document with
it; it is the reader of lexemes who says whether that matters.

Every lexeme remembers the document from its first character on. Places are counted from the end of
the document, so that they do not depend on what has been read.
-/

namespace MapMetrics.Json

open Text

/-- The ways in which a text fails to be a document. -/
inductive Fault where
  /-- No value where one must stand. -/
  | value
  /-- No key where one must stand. -/
  | key
  /-- No colon after a key. -/
  | colon
  /-- Neither a comma nor the end of a list or mapping. -/
  | comma
  /-- Something after the document. -/
  | extra
  /-- A text without its closing mark. -/
  | unterminated
  /-- An unknown escape. -/
  | escape
  /-- An escape that is not four hexadecimal digits. -/
  | codePoint
  /-- A control character in a text. -/
  | control
  /-- A byte order mark in front. -/
  | byteOrderMark
  /-- An integer with too many digits. -/
  | digits (count : Nat)
  deriving DecidableEq, Repr

/-- A fault and its place. -/
structure Error where
  /-- Kind of fault. -/
  fault : Fault
  /-- Characters from the place to the end of the document. -/
  left : Nat
  deriving DecidableEq, Repr

/-- The lexemes of a document. -/
inductive Token where
  /-- An opening brace. -/
  | openMapping
  /-- A closing brace. -/
  | closeMapping
  /-- An opening bracket. -/
  | openList
  /-- A closing bracket. -/
  | closeList
  /-- A colon. -/
  | colon
  /-- A comma. -/
  | comma
  /-- A text. -/
  | text (s : String)
  /-- A number or a word. -/
  | scalar (v : Value)
  /-- A text that breaks off. -/
  | broken (e : Error)
  /-- A character that begins no lexeme. -/
  | stray

/-- A token and the document from its first character on. -/
structure Lexeme where
  /-- Kind and content. -/
  token : Token
  /-- The document from here on. -/
  place : List Char

/-- The blanks between lexemes. -/
def isSpace (c : Char) : Bool :=
  c == ' ' || c == '\t' || c == '\n' || c == '\r'

/-- The number of four hexadecimal digits that are not the end of the document. -/
def fourDigits? : List Char → Option Nat
  | a :: b :: c :: d :: _ :: _ => do
    let digits ← [a, b, c, d].mapM hexDigit?
    return digitsValue 16 digits
  | _ => none

/-- The characters that one letter after a backslash stands for. -/
def escapeLetter? : Char → Option Char
  | '"' => some '"'
  | '\\' => some '\\'
  | '/' => some '/'
  | 'b' => some '\x08'
  | 'f' => some '\x0c'
  | 'n' => some '\n'
  | 'r' => some '\r'
  | 't' => some '\t'
  | _ => none

private def isHighSurrogate (n : Nat) : Bool := 0xD800 ≤ n && n < 0xDC00

private def isLowSurrogate (n : Nat) : Bool := 0xDC00 ≤ n && n < 0xE000

/-- The character of a code unit. Half of a pair has none of its own and is replaced: texts that
hold one are left out here. -/
def unitChar (n : Nat) : Char :=
  if 0xD800 ≤ n && n < 0xE000 then '\uFFFD' else Char.ofNat n

/-- The character that an escape by code units stands for, and the characters it takes after the
letter. Two units that are a pair make one character. -/
def escapeUnits (digits : List Char) : Except Error (Char × Nat) :=
  match fourDigits? digits with
  | none => .error ⟨.codePoint, digits.length + 1⟩
  | some first =>
    match digits.drop 4 with
    | '\\' :: 'u' :: more =>
      if isHighSurrogate first && !(more.drop 4).isEmpty then
        match fourDigits? more with
        | none => .error ⟨.codePoint, more.length + 1⟩
        | some second =>
          if isLowSurrogate second then
            .ok (Char.ofNat (0x10000 + (first - 0xD800) * 0x400 + (second - 0xDC00)), 10)
          else .ok (unitChar first, 4)
      else .ok (unitChar first, 4)
    | _ => .ok (unitChar first, 4)

/-- The character of a text that starts with `c`, and the characters it takes after `c`. -/
def textChar (start : Nat) (c : Char) (rest : List Char) : Except Error (Char × Nat) :=
  if c = '\\' then
    match rest with
    | [] => .error ⟨.unterminated, start⟩
    | 'u' :: digits => (escapeUnits digits).map fun p => (p.1, p.2 + 1)
    | letter :: more =>
      match escapeLetter? letter with
      | some x => .ok (x, 1)
      | none => .error ⟨.escape, more.length + 2⟩
  else if c.toNat < 0x20 then .error ⟨.control, rest.length + 1⟩
  else .ok (c, 0)

/-- A text from after its opening mark, whose place is `start`, and the characters that it takes
with its closing mark. -/
def readText (start : Nat) (cs : List Char) : Except Error (List Char × Nat) :=
  match cs with
  | [] => .error ⟨.unterminated, start⟩
  | c :: rest =>
    if c = '"' then .ok ([], 1)
    else do
      let (x, extra) ← textChar start c rest
      let (xs, used) ← readText start (rest.drop extra)
      return (x :: xs, used + extra + 1)
  termination_by cs.length
  decreasing_by simp only [List.length_drop, List.length_cons]; omega

/-- The digits after a mark, if there are any. -/
private def fraction : List Char → List Char
  | '.' :: rest => rest.takeWhile Char.isDigit
  | _ => []

/-- The sign and the digits of an exponent, and the characters it takes. -/
private def exponentPart? : List Char → Option (Int × Nat)
  | mark :: rest =>
    if mark = 'e' || mark = 'E' then
      let (negative, digitsFrom) := Number.splitSign rest
      let digits := (Number.spanDigits digitsFrom).1
      let n : Int := digitsValue 10 digits
      if digits.isEmpty then none
      else some (if negative then -n else n,
        1 + (rest.length - digitsFrom.length) + digits.length)
    else none
  | [] => none

/-- A number without its sign, and the characters it takes. A fraction or an exponent makes it
real; a mark without digits does not belong to it. -/
def readMagnitude? (cs : List Char) : Option ((Nat ⊕ Float) × Nat) :=
  let whole := match cs with
    | '0' :: _ => ['0']
    | _ => cs.takeWhile Char.isDigit
  if whole.isEmpty then none
  else
    let afterWhole := cs.drop whole.length
    let part := fraction afterWhole
    let partLength := if part.isEmpty then 0 else part.length + 1
    let digits := digitsValue 10 ((whole ++ part).filterMap asciiDigit?)
    match exponentPart? (afterWhole.drop partLength) with
    | some (e, used) =>
      some (.inr (Number.ofDecimal digits (e - part.length)), whole.length + partLength + used)
    | none =>
      if part.isEmpty then some (.inl digits, whole.length)
      else some (.inr (Number.ofDecimal digits (-part.length)), whole.length + partLength)

/-- A number, and the characters it takes. -/
def readNumber? (cs : List Char) : Option (Value × Nat) :=
  match cs with
  | '-' :: rest =>
    (readMagnitude? rest).map fun
      | (.inl n, used) => (.int (-n), used + 1)
      | (.inr x, used) => (.float (-x), used + 1)
  | _ =>
    (readMagnitude? cs).map fun
      | (.inl n, used) => (.int n, used)
      | (.inr x, used) => (.float x, used)

/-- The words of documents. -/
def words : List (String × Value) :=
  [("null", .null), ("true", .bool true), ("false", .bool false),
   ("NaN", .float Number.notANumber), ("Infinity", .float (Number.infinity false)),
   ("-Infinity", .float (Number.infinity true))]

/-- A word, and the characters it takes. -/
def readWord? (cs : List Char) : Option (Value × Nat) :=
  (words.find? fun w => w.1.toList.isPrefixOf cs).map fun w => (w.2, w.1.length)

/-- The token of a word or number. The digits of an integer are counted. -/
def checked (v : Value) (digits : Nat) (rest : List Char) : Token :=
  match v with
  | .int _ =>
    if Number.digitLimit < digits then .broken ⟨.digits digits, rest.length⟩ else .scalar v
  | _ => .scalar v

/-- The token that starts with `c`, and the characters it takes after `c`. -/
def token (c : Char) (rest : List Char) : Token × Nat :=
  match c with
  | '\x7b' => (.openMapping, 0)
  | '\x7d' => (.closeMapping, 0)
  | '[' => (.openList, 0)
  | ']' => (.closeList, 0)
  | ':' => (.colon, 0)
  | ',' => (.comma, 0)
  | '"' =>
    match readText (rest.length + 1) rest with
    | .ok (cs, used) => (.text (String.ofList cs), used)
    | .error e => (.broken e, rest.length)
  | c =>
    match (readWord? (c :: rest)).or (readNumber? (c :: rest)) with
    | some (v, used) => (checked v (if c = '-' then used - 1 else used) rest, used - 1)
    | none => (.stray, 0)

/-- The lexemes of a document. -/
def lexemes (cs : List Char) : List Lexeme :=
  match cs with
  | [] => []
  | c :: rest =>
    if isSpace c then lexemes rest
    else
      let read := token c rest
      ⟨read.1, c :: rest⟩ :: lexemes (rest.drop read.2)
  termination_by cs.length
  decreasing_by all_goals simp only [List.length_drop, List.length_cons]; omega

end MapMetrics.Json
