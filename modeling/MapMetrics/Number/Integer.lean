import MapMetrics.Text.Blank
import MapMetrics.Text.Digit
import MapMetrics.Text.Quoted

/-!
# Integers as text

Two readers take integers from text. The one reads integers in any base, in digits of any script,
with single underscores between digits and white space around. The other reads those of settings,
in ASCII digits, which may end in a point and zeros.

Decimal digits are read and written up to a limit; an integer beyond it is a flaw of its own. The
limit counts digits as they are written, with zeros in front.
-/

namespace MapMetrics.Number

open MapMetrics.Text

/-- The most decimal digits that are read or written. -/
def digitLimit : Nat := 4300

/-- What is said of too many digits, and of their number when it is known. -/
def tooManyDigits (digits : Option Nat) : String :=
  let known := match digits with
    | some n => ": value has " ++ toString n ++ " digits"
    | none => ""
  "Exceeds the limit (4300 digits) for integer string conversion" ++ known ++
    "; use sys.set_int_max_str_digits() to increase the limit"

/-- An integer has no more digits than can be written. -/
def isWritable (n : Int) : Bool :=
  n.natAbs < Nat.pow 10 digitLimit

/-- The ways in which a text fails to denote an integer. -/
inductive IntegerFlaw where
  /-- It is not written like an integer. -/
  | form
  /-- It has too many digits. -/
  | length (digits : Nat)
  deriving DecidableEq, Repr

/-- The sign in front of a text, and what follows it. -/
def splitSign : List Char → Bool × List Char
  | '-' :: rest => (true, rest)
  | '+' :: rest => (false, rest)
  | cs => (false, cs)

/-- Digits, at least one, with single underscores between digits. -/
def groupedDigits? (digit? : Char → Option Nat) : List Char → Option (List Nat)
  | [] => none
  | [c] => (digit? c).map ([·])
  | c :: '_' :: rest => do
    let d ← digit? c
    let ds ← groupedDigits? digit? rest
    return d :: ds
  | c :: rest => do
    let d ← digit? c
    let ds ← groupedDigits? digit? rest
    return d :: ds

/-- A natural number with a sign. -/
def signedInt (negative : Bool) (n : Nat) : Int :=
  if negative then -(n : Int) else n

/-! ## Integers in a base -/

/-- The value of a character as a digit of a base: digits of any script, and letters. -/
def digitIn? (base : Nat) (c : Char) : Option Nat :=
  ((decimalDigit? c).or (hexDigit? c)).filter (· < base)

/-- The letter that follows a zero in front of the digits of a base. -/
def baseLetter? : Nat → Option Char
  | 2 => some 'b'
  | 8 => some 'o'
  | 16 => some 'x'
  | _ => none

/-- A text without the zero and the letter of its base. -/
def dropBaseLetter (base : Nat) : List Char → List Char
  | zero :: letter :: rest =>
    if decimalDigit? zero = some 0 && baseLetter? base = some letter.toLower then rest
    else zero :: letter :: rest
  | cs => cs

/-- The integer that a text denotes in a base. The length matters in decimal only, and before what
follows the digits. -/
def integerIn (base : Nat) (cs : List Char) : Except IntegerFlaw Int :=
  let (negative, unsigned) := splitSign (trim isWhiteSpace cs)
  let written := dropBaseLetter base unsigned
  let run := written.takeWhile fun c => c == '_' || (digitIn? base c).isSome
  match groupedDigits? (digitIn? base) run with
  | none => .error .form
  | some ds =>
    if base = 10 && digitLimit < ds.length then .error (.length ds.length)
    else if run.length < written.length then .error .form
    else .ok (signedInt negative (digitsValue base ds))

/-- What is wrong with a text that is to be an integer in a base. At most two hundred characters of
the text are shown, marks included. -/
def IntegerFlaw.message (base : Nat) (cs : List Char) : IntegerFlaw → String
  | form => "invalid literal for int() with base " ++ toString base ++ ": " ++
      String.ofList ((quoted (String.ofList cs)).toList.take 200)
  | length digits => tooManyDigits (some digits)

/-! ## Integers of settings -/

/-- An integer in its plain form: a minus or nothing, and digits without a zero in front. Here a
minus counts as a digit, and the length matters before what follows the digits. -/
def plainInteger (cs : List Char) : Except IntegerFlaw Int :=
  let (negative, written) := match cs with
    | '-' :: rest => (true, rest)
    | cs => (false, cs)
  let run := written.takeWhile Char.isDigit
  let length := cs.length - written.length + run.length
  match run with
  | [] => .error .form
  | '0' :: _ => if written = ['0'] then .ok 0 else .error .form
  | _ =>
    if digitLimit < length then .error (.length length)
    else if run.length < written.length then .error .form
    else .ok (signedInt negative (digitsValue 10 (run.filterMap asciiDigit?)))

/-- A text without zeros in front, and without underscores among them. What is left starts with
another digit or a minus; of nothing but zeros, and in front of a point, the last is left. -/
def dropZeros? : List Char → Option (List Char)
  | [] => none
  | first :: rest =>
    let startsNumber (c : Char) : Bool := ('1' ≤ c && c ≤ '9') || c == '-'
    if first = '0' then
      let zeros := rest.takeWhile fun c => c == '0' || c == '_'
      let last := zeros.getLast?.getD '0'
      match rest.drop zeros.length with
      | [] => some [last]
      | c :: more =>
        if startsNumber c then some (c :: more)
        else if c = '.' then some (last :: '.' :: more)
        else none
    else if startsNumber first then some (first :: rest)
    else none

/-- A text without a point and zeros at its end; a point needs at least one zero after it. -/
def dropZeroFraction (cs : List Char) : List Char :=
  let shorter := cs.reverse.dropWhile (· == '0')
  match shorter with
  | '.' :: front => if shorter.length = cs.length then cs else front.reverse
  | _ => cs

/-- Underscores may be left out of a text that neither starts nor ends with one and has no two in
a row. -/
def dropUnderscores? (cs : List Char) : Option (List Char) :=
  let adjacent := (cs.zip cs.tail).contains ('_', '_')
  if cs.head? == some '_' || cs.getLast? == some '_' || adjacent then none
  else some (cs.filter (· != '_'))

/-- The plain form of an integer that is written at length. A plus may not stand before a minus. -/
def toPlain? (cs : List Char) : Option (List Char) := do
  let (sign, unsigned) ← match trim isWhiteSpace cs with
    | '+' :: '-' :: _ => none
    | '-' :: rest => some (['-'], rest)
    | '+' :: rest => some ([], rest)
    | rest => some ([], rest)
  let digits := dropZeroFraction (← dropZeros? unsigned)
  return sign ++ (dropUnderscores? digits).getD digits

/-- The integer that a setting denotes, written plainly or at length. Only an integer written
plainly can be too long; one written at length is then not taken for an integer at all. -/
def whole (cs : List Char) : Except IntegerFlaw Int :=
  match plainInteger cs with
  | .ok n => .ok n
  | .error (.length digits) => .error (.length digits)
  | .error .form =>
    match (toPlain? cs).map plainInteger with
    | some (.ok n) => .ok n
    | _ => .error .form

end MapMetrics.Number
