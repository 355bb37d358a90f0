import MapMetrics.Number.Binary64
import MapMetrics.Number.Integer

/-!
# Reals as text

Reals are decimals with an optional exponent, or the names of the infinities and of the number that
is none, in any case. In settings they are written in ASCII digits, and underscores may stand
anywhere inside, but not next to each other, and then no white space may stand around. Elsewhere
digits of any script will do, with white space around and no underscores.
-/

namespace MapMetrics.Number

open MapMetrics.Text

/-- The leading ASCII digits of a text, and what follows them. -/
def spanDigits (cs : List Char) : List Nat × List Char :=
  let digits := cs.takeWhile Char.isDigit
  (digits.filterMap asciiDigit?, cs.drop digits.length)

/-- The exponent of a decimal: nothing, or a mark, an optional sign and digits. -/
def exponent? : List Char → Option Int
  | [] => some 0
  | mark :: rest =>
    if mark = 'e' || mark = 'E' then
      let (negative, digits) := splitSign rest
      match spanDigits digits with
      | ([], _) => none
      | (ds, []) => some (signedInt negative (digitsValue 10 ds))
      | _ => none
    else none

/-- An unsigned decimal: digits on at least one side of an optional point, and an exponent. -/
def decimal? (cs : List Char) : Option Float :=
  let (front, afterFront) := spanDigits cs
  let (back, afterBack) := match afterFront with
    | '.' :: rest => spanDigits rest
    | rest => ([], rest)
  if front.isEmpty && back.isEmpty then none
  else (exponent? afterBack).map fun e =>
    ofDecimal (digitsValue 10 (front ++ back)) (e - back.length)

/-- A real with an optional sign in front. -/
def signedReal? (cs : List Char) : Option Float := do
  let (negative, rest) := splitSign cs
  let magnitude ← match String.ofList (rest.map Char.toLower) with
    | "inf" => some (infinity false)
    | "infinity" => some (infinity false)
    | "nan" => some notANumber
    | _ => decimal? rest
  return withSign negative magnitude

/-- The real that a setting denotes. -/
def real? (cs : List Char) : Option Float :=
  (signedReal? (trim isWhiteSpace cs)).or ((dropUnderscores? cs).bind signedReal?)

/-- A digit of any script as an ASCII digit. -/
def toAsciiDigit (c : Char) : Char :=
  match decimalDigit? c with
  | some d => Nat.digitChar d
  | none => c

/-- The real that a text denotes, in digits of any script. -/
def realOfText? (cs : List Char) : Option Float :=
  signedReal? ((trim isWhiteSpace cs).map toAsciiDigit)

end MapMetrics.Number
