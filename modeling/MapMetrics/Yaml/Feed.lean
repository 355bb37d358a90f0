import MapMetrics.Text.Lines
import MapMetrics.Yaml.Ahead

/-!
# The characters of a document

A document is read while its file is read. The characters come in portions, the first two at once
and every other one when the characters before it are used up. A portion that cannot be decoded, or
that holds a character that no document may hold, is an error only when it comes: until then the
document is read, and may turn out to be wrong for other reasons.
-/

namespace MapMetrics.Yaml

/-- The place of a cursor. -/
def Cursor.place (c : Cursor) : Place :=
  ⟨c.line + 1, c.column + 1⟩

/-- The characters that can be read, and the error that comes after them. -/
structure Feed where
  /-- The characters. -/
  chars : List Char
  /-- The error. -/
  error : Option Error := none

namespace Feed

/-- The characters, with the mark behind them where they are cut off. -/
def text (feed : Feed) : List Char :=
  if feed.error.isSome then feed.chars ++ [cut] else feed.chars

/-- The number of characters of a portion. -/
def portion : Nat := 4096

/-- The number of characters that come before the portion of the character at a place. -/
def before (place : Nat) : Nat :=
  if place < 2 * portion then 0 else place / portion * portion

/-- The place of a character of a text. -/
def placeOf (front : List Char) : Place :=
  ((Cursor.start front).advance front.length).place

/-- The characters of a text up to the portion with the first character that no document may
hold. -/
def checked (cs : List Char) : Feed :=
  let front := cs.takeWhile isAllowed
  match cs.drop front.length with
  | [] => ⟨cs, none⟩
  | _ => ⟨cs.take (before front.length), some (.unreadable .characters
      "special characters are not allowed" (some (placeOf front)))⟩

/-- A text without a return behind it, which may belong to an end of a line that is not
complete. -/
def withoutReturn (cs : List Char) : List Char :=
  if cs.getLast? == some '\r' then cs.dropLast else cs

/-- The characters of a file. -/
def ofOctets (octets : List UInt8) : Feed :=
  match Text.Utf8.decodeStream octets with
  | (cs, none) => checked (Text.unifyLineEnds cs)
  | (cs, some e) =>
    let decoded := Text.unifyLineEnds (withoutReturn cs)
    let feed := checked (decoded.take (before decoded.length))
    { feed with error := feed.error.or (some (.undecodable e)) }

end Feed

end MapMetrics.Yaml
