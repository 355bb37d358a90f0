/-!
# Base 64

Octets written in letters of six bits each: four letters for three octets. Padding fills up the last
four, and ends the text where it is complete; characters that are no letters do not count. A text
that breaks off inside of an octet, or that is not filled up, stands for nothing.
-/

namespace MapMetrics.Text.Base64

/-- The six bits of a letter. -/
def digit? (c : Char) : Option Nat :=
  if c.isUpper then some (c.toNat - 65)
  else if c.isLower then some (c.toNat - 71)
  else if c.isDigit then some (c.toNat + 4)
  else if c = '+' then some 62
  else if c = '/' then some 63
  else none

/-- The octets of a text from the letter on that stands at `place` among its four. `carried` are the
bits that wait for their octet, and `padding` counts the marks that were just met. -/
def decodeFrom (place carried padding : Nat) : List Char → Option (List UInt8)
  | [] => if place = 0 then some [] else none
  | c :: rest =>
    if c = '=' then
      if place < 2 then decodeFrom place carried padding rest
      else if 4 ≤ place + padding + 1 then some []
      else decodeFrom place carried (padding + 1) rest
    else match digit? c with
      | none => decodeFrom place carried padding rest
      | some d =>
        match place with
        | 0 => decodeFrom 1 d 0 rest
        | 1 => (decodeFrom 2 (d % 16) 0 rest).map (UInt8.ofNat (carried * 4 + d / 16) :: ·)
        | 2 => (decodeFrom 3 (d % 4) 0 rest).map (UInt8.ofNat (carried * 16 + d / 4) :: ·)
        | _ => (decodeFrom 0 0 0 rest).map (UInt8.ofNat (carried * 64 + d) :: ·)

/-- The octets of a text. -/
def decode (cs : List Char) : Option (List UInt8) :=
  decodeFrom 0 0 0 cs

end MapMetrics.Text.Base64
