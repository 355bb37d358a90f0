import MapMetrics.Number.Binary64

/-!
# Shortest decimals

The reals that round to a number form an interval around it, from half the distance to the number
below to half the distance to the number above; its ends belong to it exactly when the mantissa is
even. The text of a number is the shortest decimal in that interval and, of those, the one nearest
to the number. Every decimal of a given length lies on a grid of powers of ten, and if the interval
holds any point of a grid it holds one of the two that enclose the number: so each length asks for
two comparisons of integers.
-/

namespace MapMetrics.Number

/-- A decimal: `digits` times ten to the power of `exponent`. -/
structure Decimal where
  /-- Whole factor. -/
  digits : Nat
  /-- Power of ten. -/
  exponent : Int
  deriving DecidableEq, Repr

/-- A number and the interval of reals that round to it, in quarters of its last binary place:
the number is `mid / scale`, and the interval reaches from `low / scale` to `high / scale`. -/
structure Surroundings where
  /-- Lower end. -/
  low : Nat
  /-- The number. -/
  mid : Nat
  /-- Upper end. -/
  high : Nat
  /-- Common denominator. -/
  scale : Nat
  /-- Whether the ends round to the number too. -/
  inclusive : Bool

/-- The surroundings of a magnitude. Below a power of two the numbers are twice as close. -/
def Magnitude.surroundings (m : Magnitude) : Surroundings :=
  let factor := twoTo (m.exponent - 2).toNat
  let narrow := m.mantissa == twoTo 52 && m.exponent != -1074
  { low := (4 * m.mantissa - if narrow then 1 else 2) * factor
    mid := 4 * m.mantissa * factor
    high := (4 * m.mantissa + 2) * factor
    scale := twoTo (2 - m.exponent).toNat
    inclusive := m.mantissa % 2 == 0 }

/-- Ten to a power, one if the power is negative. -/
def tenTo (exponent : Int) : Nat := Nat.pow 10 exponent.toNat

/-- The decimal lies in the interval. -/
def Surroundings.holds (s : Surroundings) (d : Decimal) : Bool :=
  let value := d.digits * tenTo d.exponent * s.scale
  let low := s.low * tenTo (-d.exponent)
  let high := s.high * tenTo (-d.exponent)
  if s.inclusive then low ≤ value && value ≤ high else low < value && value < high

/-- The exponent of ten of the leading decimal digit. -/
def Surroundings.leadingExponent (s : Surroundings) : Int :=
  if s.scale ≤ s.mid then ((Nat.toDigits 10 (s.mid / s.scale)).length : Int) - 1
  else -((Nat.toDigits 10 ((s.scale - 1) / s.mid)).length : Int)

/-- The point of the grid of ten to the power of `exponent` that is to be written: of the two
points that enclose the number the one that lies in the interval, the nearer if both do, and the
even one of two equally near. -/
def Surroundings.onGrid? (s : Surroundings) (exponent : Int) : Option Decimal :=
  let numerator := s.mid * tenTo (-exponent)
  let denominator := s.scale * tenTo exponent
  let below : Decimal := ⟨numerator / denominator, exponent⟩
  let above : Decimal := ⟨numerator / denominator + 1, exponent⟩
  let twiceRest := 2 * (numerator % denominator)
  let nearer :=
    if twiceRest < denominator then below
    else if denominator < twiceRest then above
    else if below.digits % 2 = 0 then below
    else above
  match s.holds below, s.holds above with
  | true, true => some nearer
  | true, false => some below
  | false, true => some above
  | false, false => none

private def stripZeros : Nat → Decimal → Decimal
  | 0, d => d
  | fuel + 1, d =>
    if d.digits ≠ 0 && d.digits % 10 = 0 then stripZeros fuel ⟨d.digits / 10, d.exponent + 1⟩ else d

/-- The shortest decimal that rounds to a magnitude other than zero. Seventeen digits are always
enough; if they were not, the exact value would stand. -/
def Magnitude.shortest (m : Magnitude) : Decimal :=
  let s := m.surroundings
  let lead := s.leadingExponent
  let found := (List.range 17).findSome? fun (n : Nat) => s.onGrid? (lead - n)
  let exact : Decimal :=
    ⟨m.mantissa * twoTo m.exponent.toNat * Nat.pow 5 (-m.exponent).toNat, min m.exponent 0⟩
  let d := found.getD exact
  stripZeros (Nat.toDigits 10 d.digits).length d

/-- How a decimal is laid out. -/
structure Notation where
  /-- Least exponent of the leading digit that is written with a point only. -/
  plainFrom : Int
  /-- First exponent of the leading digit that is too large for a point only. -/
  plainBelow : Int
  /-- Least number of digits of a written exponent. -/
  exponentWidth : Nat

private def padded (width : Nat) (digits : List Char) : List Char :=
  List.replicate (width - digits.length) '0' ++ digits

/-- A decimal in a notation. Plain notation always has a digit on both sides of the point. -/
def Decimal.render (n : Notation) (d : Decimal) : String :=
  let digits := Nat.toDigits 10 d.digits
  let lead := d.exponent + digits.length - 1
  if n.plainFrom ≤ lead && lead < n.plainBelow then
    if lead < 0 then
      String.ofList ("0.".toList ++ List.replicate (-lead - 1).toNat '0' ++ digits)
    else
      let whole := lead.toNat + 1
      let front := digits.take whole ++ List.replicate (whole - digits.length) '0'
      let back := digits.drop whole
      String.ofList (front ++ '.' :: (if back.isEmpty then ['0'] else back))
  else
    let back := digits.drop 1
    let fraction := if back.isEmpty then [] else '.' :: back
    let sign := if lead < 0 then '-' else '+'
    String.ofList (digits.take 1 ++ fraction ++ 'e' :: sign ::
      padded n.exponentWidth (Nat.toDigits 10 lead.natAbs))

/-- Numbers are written with a point alone from a ten-thousandth to below ten to the power of 16,
and otherwise with a signed exponent of at least two digits. -/
def standardNotation : Notation :=
  ⟨-4, 16, 2⟩

/-- The text of a number. -/
def text (x : Float) : String :=
  if x.isNaN then "nan"
  else
    let sign := if signBit x then "-" else ""
    if !x.isFinite then sign ++ "inf"
    else
      let m := magnitude x
      if m.mantissa = 0 then sign ++ "0.0" else sign ++ m.shortest.render standardNotation

end MapMetrics.Number
