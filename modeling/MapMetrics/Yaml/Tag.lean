import MapMetrics.Number.Literal
import MapMetrics.Text.Base64
import MapMetrics.Text.LowerCase
import MapMetrics.Text.Parts
import MapMetrics.Value
import MapMetrics.Yaml.Error
import MapMetrics.Yaml.Timestamp

/-!
# Tags and the values of scalars

Every node has a tag, which says what its text is to become. A plain scalar without a tag gets one
by its form: words for truth values and for nothing, integers in four bases and in sixties, reals
that have a point, timestamps; everything else is text. One end of a line behind it does not change
the form of a text. A tag that is given decides alone, even about text that it does not fit: numbers
may then be written in more ways than the form allows, and other texts have no value.
-/

namespace MapMetrics.Yaml

open Text (parts)

/-- What a node is to become. -/
inductive Tag where
  /-- Nothing. -/
  | null
  /-- A truth value. -/
  | bool
  /-- An integer. -/
  | int
  /-- A real number. -/
  | float
  /-- A day or a moment. -/
  | timestamp
  /-- The key under which other mappings are merged. -/
  | merge
  /-- The key of the value that stands for a whole mapping. -/
  | standIn
  /-- A text. -/
  | text
  /-- Octets. -/
  | binary
  /-- A list. -/
  | list
  /-- A list of pairs. -/
  | pairs
  /-- The keys of a mapping. -/
  | set
  /-- A mapping. -/
  | mapping
  /-- Something that is not known. -/
  | other (name : String)
  deriving DecidableEq, Repr

/-- What the names of the common tags start with. -/
def commonPrefix : String := "tag:yaml.org,2002:"

/-- The tag of a full name. -/
def Tag.ofName (name : String) : Tag :=
  let known : List (String × Tag) :=
    [("null", .null), ("bool", .bool), ("int", .int), ("float", .float),
     ("timestamp", .timestamp), ("merge", .merge), ("value", .standIn), ("str", .text),
     ("binary", .binary), ("seq", .list), ("omap", .pairs), ("pairs", .pairs), ("set", .set),
     ("map", .mapping)]
  match known.find? fun k => commonPrefix ++ k.1 == name with
  | some k => k.2
  | none => .other name

/-- A tag for lists, sets or mappings. Nodes with such a tag are filled after all that stands beside
them. -/
def Tag.isCollection : Tag → Bool
  | .list => true
  | .pairs => true
  | .set => true
  | .mapping => true
  | _ => false

/-! ## Forms of plain scalars -/

/-- The words for truth values. -/
def boolWords : List (String × Bool) :=
  [("yes", true), ("no", false), ("true", true), ("false", false), ("on", true), ("off", false)]

/-- The truth value of a word in lower case, in capitals, or with a capital in front. -/
def boolWord? (cs : List Char) : Option Bool :=
  let lower := cs.map Char.toLower
  let spellings := [lower, cs.map Char.toUpper, lower.modifyHead Char.toUpper]
  if spellings.contains cs then
    (boolWords.find? fun w => w.1.toList == lower).map (·.2)
  else none

/-- The spellings of nothing. -/
def nullWords : List String := ["", "~", "null", "Null", "NULL"]

private def someOf (p : Char → Bool) (cs : List Char) : Bool :=
  !cs.isEmpty && cs.all p

private def isGrouped (p : Char → Bool) (c : Char) : Bool :=
  p c || c == '_'

/-- The parts of a number in sixties after the first: one digit, or two below sixty. -/
def isSixtieth : List Char → Bool
  | [a] => a.isDigit
  | [a, b] => '0' ≤ a && a ≤ '5' && b.isDigit
  | _ => false

/-- The form of integers. -/
def isInteger (cs : List Char) : Bool :=
  match (Number.splitSign cs).2 with
  | '0' :: 'b' :: rest => someOf (isGrouped fun c => c == '0' || c == '1') rest
  | '0' :: 'x' :: rest => someOf (isGrouped fun c => (Text.hexDigit? c).isSome) rest
  | '0' :: rest => rest.all (isGrouped fun c => '0' ≤ c && c ≤ '7')
  | c :: rest =>
    c.isDigit &&
      match parts ':' (c :: rest) with
      | whole :: sixtieths => whole.all (isGrouped Char.isDigit) && sixtieths.all isSixtieth
      | [] => false
  | [] => false

private def isExponent : List Char → Bool
  | [] => true
  | mark :: sign :: digits =>
    (mark == 'e' || mark == 'E') && (sign == '+' || sign == '-') && someOf Char.isDigit digits
  | _ => false

/-- The form of reals: there is always a point, and an exponent has a sign. -/
def isReal (cs : List Char) : Bool :=
  let plain := match (Number.splitSign cs).2 with
    | c :: rest =>
      c.isDigit &&
        let whole := (c :: rest).takeWhile (isGrouped Char.isDigit)
        match (c :: rest).drop whole.length with
        | '.' :: more => isExponent (more.dropWhile (isGrouped Char.isDigit))
        | ':' :: more =>
          let (sixties, fraction) := (more.takeWhile (· != '.'), more.dropWhile (· != '.'))
          (parts ':' sixties).all isSixtieth && !fraction.isEmpty &&
            (fraction.drop 1).all (isGrouped Char.isDigit)
        | _ => false
    | [] => false
  let pointed := match cs with
    | '.' :: c :: rest => c.isDigit && isExponent (rest.dropWhile (isGrouped Char.isDigit))
    | _ => false
  let infinite := [".inf", ".Inf", ".INF"].contains (String.ofList (Number.splitSign cs).2)
  let none_ := [".nan", ".NaN", ".NAN"].contains (String.ofList cs)
  plain || pointed || infinite || none_

/-- The form of timestamps: a date alone has two digits for month and day. -/
def isTimestamp (cs : List Char) : Bool :=
  match timestamp? cs with
  | some t => t.clock.isSome || cs.length == 10
  | none => false

/-- A text without one end of a line behind it. -/
def withoutEnd (cs : List Char) : List Char :=
  if cs.getLast? == some '\n' then cs.dropLast else cs

/-- The tag of a plain scalar. -/
def Tag.ofPlain (s : String) : Tag :=
  let cs := if s == "\n" then s.toList else withoutEnd s.toList
  let core := String.ofList cs
  if (boolWord? cs).isSome then .bool
  else if isReal cs then .float
  else if isInteger cs then .int
  else if core == "<<" then .merge
  else if nullWords.contains core then .null
  else if isTimestamp cs then .timestamp
  else if core == "=" then .standIn
  else .text

/-! ## Values of scalars -/

private def withoutUnderscores (s : String) : List Char :=
  s.toList.filter (· != '_')

private def inBase (base : Nat) (cs : List Char) : Except Error Int :=
  (Number.integerIn base cs).mapError fun flaw => .impossible (flaw.message base cs)

/-- A number in sixties. -/
def inSixties (values : List Int) : Int :=
  values.foldl (fun total d => total * 60 + d) 0

/-- The integer of a text without a sign. -/
def unsignedValue (cs : List Char) : Except Error Int :=
  match cs with
  | [] => .error .noDigits
  | ['0'] => .ok 0
  | '0' :: 'b' :: rest => inBase 2 rest
  | '0' :: 'x' :: rest => inBase 16 rest
  | '0' :: rest => inBase 8 ('0' :: rest)
  | _ => ((parts ':' cs).mapM (inBase 10)).map inSixties

/-- The integer of a text. -/
def integerValue (s : String) : Except Error Int := do
  let (negative, cs) := Number.splitSign (withoutUnderscores s)
  let n ← unsignedValue cs
  return if negative then -n else n

private def decimalValue (cs : List Char) : Except Error Float :=
  match Number.realOfText? cs with
  | some x => .ok x
  | none => .error (.impossible ("could not convert string to float: " ++
      Text.quoted (String.ofList cs)))

/-- A real number in sixties: the parts are added up from the last to the first, and the unit of a
part must not be too large for a real number. -/
def realInSixties (values : List Float) : Except Error Float := do
  let (total, _) ← values.reverse.foldlM (fun (total, unit) x =>
    let scale := Number.ofInteger unit
    if scale.isFinite then .ok (total + x * scale, unit * 60)
    else .error (.tooLarge "int too large to convert to float")) ((0.0, 1) : Float × Int)
  return total

/-- The real number of a text without a sign. -/
def unsignedReal (cs : List Char) : Except Error Float :=
  if cs == ".inf".toList then .ok (Number.infinity false)
  else if cs == ".nan".toList then .ok Number.notANumber
  else if cs.contains ':' then (parts ':' cs).mapM decimalValue >>= realInSixties
  else decimalValue cs

/-- The real number of a text. -/
def realValue (s : String) : Except Error Float := do
  let written := Text.lowerCase (withoutUnderscores s)
  if written.isEmpty then throw .noDigits
  let (negative, cs) := Number.splitSign written
  let x ← unsignedReal cs
  return if negative then -x else x

/-- The truth value of a word, in letters of any case. -/
def boolValue (s : String) : Except Error Bool :=
  let lower := Text.lowerCase s.toList
  match boolWords.find? fun w => w.1.toList == lower with
  | some w => .ok w.2
  | none => .error (.unknownWord (String.ofList lower))

/-- The day or moment of a text. -/
def timestampValue (s : String) : Except Error Value :=
  match timestamp? (withoutEnd s.toList) with
  | none => .error .noTimestamp
  | some t =>
    match t.resolve with
    | .ok (.inl d) => .ok (.date d)
    | .ok (.inr m) => .ok (.moment m)
    | .error e => .error (.impossible e.message)

/-- The octets that a text in base 64 stands for. -/
def binaryValue (s : String) : Except Error (List UInt8) :=
  if s.toList.all fun c => c.toNat < 0x80 then
    match Text.Base64.decode s.toList with
    | some octets => .ok octets
    | none => .error (Stage.values.error "failed to decode base64 data")
  else .error (Stage.values.error "failed to convert base64 data into ascii")

/-- The value of a text under a tag. -/
def scalarValue (tag : Tag) (s : String) : Except Error Value :=
  match tag with
  | .null => .ok .null
  | .bool => (boolValue s).map .bool
  | .int => (integerValue s).map .int
  | .float => (realValue s).map .float
  | .timestamp => timestampValue s
  | .text => .ok (.text s)
  | .binary => (binaryValue s).map .bytes
  | .other name => .error (Stage.values.error ("no value can be made of the tag " ++ name))
  | _ => .error (Stage.values.error "no value can be made of the tag of a key")

end MapMetrics.Yaml
