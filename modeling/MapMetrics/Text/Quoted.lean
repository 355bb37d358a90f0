import MapMetrics.Text.Printable

/-!
# Quoted texts

A quoted text stands between two equal quotation marks, apostrophes unless the text holds an
apostrophe and no double mark. Inside, the mark in use and the backslash are escaped by a
backslash, line ends and tabs have letters, and every other character that is not printable is
written by its code point in the shortest of three hexadecimal widths.

Octets are quoted like the characters of their numbers, as if only those of ASCII were printable,
and a letter in front tells them from a text.
-/

namespace MapMetrics.Text

/-- The last `width` hexadecimal digits of a number, in lower case. -/
def hexDigits (width n : Nat) : List Char :=
  match width with
  | 0 => []
  | w + 1 => hexDigits w (n / 16) ++ [Nat.digitChar (n % 16)]

/-- The quotation mark of a text. -/
def quotationMark (cs : List Char) : Char :=
  if cs.contains '\'' && !cs.contains '"' then '"' else '\''

/-- One character inside quotation marks. -/
def escaped (mark c : Char) : List Char :=
  if c = mark || c = '\\' then ['\\', c]
  else match c with
    | '\n' => ['\\', 'n']
    | '\r' => ['\\', 'r']
    | '\t' => ['\\', 't']
    | c =>
      if isPrintable c then [c]
      else if c.toNat < 0x100 then '\\' :: 'x' :: hexDigits 2 c.toNat
      else if c.toNat < 0x10000 then '\\' :: 'u' :: hexDigits 4 c.toNat
      else '\\' :: 'U' :: hexDigits 8 c.toNat

/-- A text between quotation marks. -/
def quoted (s : String) : String :=
  let mark := quotationMark s.toList
  String.ofList (mark :: s.toList.flatMap (escaped mark) ++ [mark])

/-- One octet inside quotation marks. -/
def escapedOctet (mark : Char) (b : UInt8) : List Char :=
  if b < 0x80 then escaped mark (Char.ofNat b.toNat) else '\\' :: 'x' :: hexDigits 2 b.toNat

/-- Octets between quotation marks. -/
def quotedOctets (octets : List UInt8) : String :=
  let mark := quotationMark (octets.map fun b => Char.ofNat b.toNat)
  String.ofList ('b' :: mark :: octets.flatMap (escapedOctet mark) ++ [mark])

end MapMetrics.Text
