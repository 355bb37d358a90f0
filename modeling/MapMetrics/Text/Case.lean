/-!
# Case forms that are plain ASCII

Names are compared without regard to case by their upper-case form, suffixes by their lower-case
form. All names and suffixes are plain ASCII, so a text matters only when its whole case form is:
the maps here give the case form of a character when that form is plain ASCII and nothing
otherwise. Beside the ASCII letters there are ten characters outside ASCII whose upper-case form
is plain ASCII, and one, the Kelvin sign, whose lower-case form is.
-/

namespace MapMetrics.Text

/-- The upper-case form of a character, when that form is plain ASCII. -/
def asciiUpper? (c : Char) : Option (List Char) :=
  if c.toNat < 0x80 then some [c.toUpper]
  else match c with
    | '\u00DF' => some ['S', 'S']
    | '\u0131' => some ['I']
    | '\u017F' => some ['S']
    | '\uFB00' => some ['F', 'F']
    | '\uFB01' => some ['F', 'I']
    | '\uFB02' => some ['F', 'L']
    | '\uFB03' => some ['F', 'F', 'I']
    | '\uFB04' => some ['F', 'F', 'L']
    | '\uFB05' => some ['S', 'T']
    | '\uFB06' => some ['S', 'T']
    | _ => none

/-- The lower-case form of a character, when that form is plain ASCII. -/
def asciiLower? (c : Char) : Option Char :=
  if c.toNat < 0x80 then some c.toLower
  else if c = '\u212A' then some 'k'
  else none

/-- The upper-case form of a text, when that form is plain ASCII. -/
def upper? (cs : List Char) : Option (List Char) :=
  (cs.mapM asciiUpper?).map List.flatten

/-- The lower-case form of a text, when that form is plain ASCII. -/
def lower? (cs : List Char) : Option (List Char) :=
  cs.mapM asciiLower?

end MapMetrics.Text
