import MapMetrics.Calendar
import MapMetrics.Number.Integer
import MapMetrics.Number.Shortest
import MapMetrics.Placement
import MapMetrics.Text.Quoted

/-!
# Values of documents

What a document of either format holds: nothing, truth values, integers of any size, real numbers,
texts, octets, dates and moments, lists, pairs, sets, and mappings whose entries keep the order in
which their keys came first. Truth values count as the integers 1 and 0 where keys are compared, and
integers and reals that are equal are one key.

A list or mapping may be met again inside of itself. Then it stands in a knot, under a label, and
inside of the knot the label stands for all of it. Opening a knot gives the list or mapping itself,
with the whole knot wherever it is met again. Labels stay as they are, so that a label says which
list or mapping it is, however deep inside it is met.

A value is shown in two ways. Its display is the text itself for a text and an expression for
everything else; its literal is an expression for texts too. Inside lists and mappings everything
stands as a literal. A list or mapping inside of itself is shown by points.
-/

namespace MapMetrics

open Calendar

/-- A value of a document. -/
inductive Value where
  /-- Nothing. -/
  | null
  /-- A truth value. -/
  | bool (b : Bool)
  /-- An integer. -/
  | int (n : Int)
  /-- A real number. -/
  | float (x : Float)
  /-- A text. -/
  | text (s : String)
  /-- Octets. -/
  | bytes (octets : List UInt8)
  /-- A day. -/
  | date (d : Date)
  /-- A day and a time. -/
  | moment (m : Moment)
  /-- A list. -/
  | list (items : List Value)
  /-- Two values. -/
  | pair (first second : Value)
  /-- Keys without values. -/
  | set (keys : List Value)
  /-- A mapping, as its entries in order. -/
  | mapping (entries : List (Value × Value))
  /-- A list or mapping that is met again inside of itself. -/
  | knot (label : Nat) (inside : Value)
  /-- The list or mapping of a knot around. -/
  | again (label : Nat)
  deriving Inhabited

namespace Value

/-! ## Knots -/

mutual

/-- A part of a knot with the whole knot wherever its label stands. -/
def tie (label : Nat) (whole : Value) : Value → Value
  | again l => if l = label then whole else again l
  | knot l inside => if l = label then knot l inside else knot l (tie label whole inside)
  | list items => list (tieItems label whole items)
  | pair first second => pair (tie label whole first) (tie label whole second)
  | mapping entries => mapping (tieEntries label whole entries)
  | v => v

/-- The items of a list inside of a knot. -/
def tieItems (label : Nat) (whole : Value) : List Value → List Value
  | [] => []
  | v :: rest => tie label whole v :: tieItems label whole rest

/-- The entries of a mapping inside of a knot; keys have no parts. -/
def tieEntries (label : Nat) (whole : Value) : List (Value × Value) → List (Value × Value)
  | [] => []
  | (k, v) :: rest => (k, tie label whole v) :: tieEntries label whole rest

end

/-- A value as it is when it is taken apart: a knot is opened. -/
def opened : Value → Value
  | knot label inside => tie label (knot label inside) inside
  | v => v

/-! ## Kinds -/

/-- The name of the kind of a value. -/
def typeName : Value → String
  | null => "NoneType"
  | bool _ => "bool"
  | int _ => "int"
  | float _ => "float"
  | text _ => "str"
  | bytes _ => "bytes"
  | date _ => "datetime.date"
  | moment _ => "datetime.datetime"
  | list _ => "list"
  | pair _ _ => "tuple"
  | set _ => "set"
  | mapping _ => "dict"
  | knot _ inside => typeName inside
  | again _ => "dict"

/-- Everything is filled but nothing, falsehood, zero and what has no parts. -/
def isFilled : Value → Bool
  | null => false
  | bool b => b
  | int n => n != 0
  | float x => x != 0.0
  | text s => !s.isEmpty
  | bytes octets => !octets.isEmpty
  | list items => !items.isEmpty
  | set keys => !keys.isEmpty
  | mapping entries => !entries.isEmpty
  | _ => true

/-- A value that takes the place of a value that is not filled. -/
def orElse (v other : Value) : Value :=
  if v.isFilled then v else other

/-! ## Expressions -/

/-- A truth value as an expression. -/
def boolLiteral (b : Bool) : String :=
  if b then "True" else "False"

/-- Expressions in a row between two marks. -/
def between (first last : String) (expressions : List String) : String :=
  first ++ ", ".intercalate expressions ++ last

/-- What is shown of a list or mapping inside of itself. -/
def points : Value → String
  | list _ => "[...]"
  | _ => "\x7b...\x7d"

mutual

/-- A value as an expression inside of some knots, of which it is known what is shown of them. -/
def literalInside (around : List (Nat × String)) : Value → String
  | null => "None"
  | bool b => boolLiteral b
  | int n => toString n
  | float x => Number.text x
  | text s => Text.quoted s
  | bytes octets => Text.quotedOctets octets
  | date d => d.expression
  | moment m => m.expression
  | list items => between "[" "]" (literals around items)
  | pair first second =>
    between "(" ")" [literalInside around first, literalInside around second]
  | set keys =>
    if keys.isEmpty then "set()" else between "\x7b" "\x7d" (literals around keys)
  | mapping entries => between "\x7b" "\x7d" (entryLiterals around entries)
  | knot label inside =>
    match around.lookup label with
    | some shown => shown
    | none => literalInside ((label, inside.points) :: around) inside
  | again label => (around.lookup label).getD "..."

/-- The items of a list as expressions. -/
def literals (around : List (Nat × String)) : List Value → List String
  | [] => []
  | v :: rest => literalInside around v :: literals around rest

/-- The entries of a mapping as expressions. -/
def entryLiterals (around : List (Nat × String)) : List (Value × Value) → List String
  | [] => []
  | (k, v) :: rest =>
    (literalInside around k ++ ": " ++ literalInside around v) :: entryLiterals around rest

end

/-- A value as an expression. -/
def literal (v : Value) : String :=
  v.literalInside []

/-- A value as it is shown: texts, dates and moments as they are read, the rest as expressions. -/
def display : Value → String
  | text s => s
  | date d => d.display
  | moment m => m.display
  | v => v.literal

mutual

/-- No integer in a value has too many digits to be written. -/
def isWritable : Value → Bool
  | int n => Number.isWritable n
  | list items => areWritable items
  | pair first second => first.isWritable && second.isWritable
  | set keys => areWritable keys
  | mapping entries => entriesAreWritable entries
  | knot _ inside => inside.isWritable
  | _ => true

/-- All items of a list can be written. -/
def areWritable : List Value → Bool
  | [] => true
  | v :: rest => v.isWritable && areWritable rest

/-- All entries of a mapping can be written. -/
def entriesAreWritable : List (Value × Value) → Bool
  | [] => true
  | (k, v) :: rest => k.isWritable && v.isWritable && entriesAreWritable rest

end

/-! ## Keys -/

/-- The number that a value counts as when keys are compared. -/
def number? : Value → Option (Int ⊕ Float)
  | bool b => some (.inl (if b then 1 else 0))
  | int n => some (.inl n)
  | float x => some (match Number.wholeValue? x with
    | some n => .inl n
    | none => .inr x)
  | _ => none

/-- Two numbers are the same: as integers, or as reals that are not whole. The number that is
none is the same as itself. -/
def sameNumber : Int ⊕ Float → Int ⊕ Float → Bool
  | .inl m, .inl n => m == n
  | .inr x, .inr y => x == y || (x.isNaN && y.isNaN)
  | _, _ => false

/-- Two values are the same key of a mapping. -/
def sameKey (a b : Value) : Bool :=
  match a, b with
  | null, null => true
  | text s, text t => s == t
  | bytes a, bytes b => a == b
  | date d, date e => d == e
  | moment m, moment n => m.sameInstant n
  | _, _ =>
    match a.number?, b.number? with
    | some x, some y => sameNumber x y
    | _, _ => false

@[simp] theorem sameKey_text (s t : String) : sameKey (text s) (text t) = (s == t) := rfl

/-- Keys of mappings are values without parts. -/
def isKey : Value → Bool
  | list _ => false
  | set _ => false
  | mapping _ => false
  | knot _ _ => false
  | again _ => false
  | _ => true

/-- The value under a key. -/
def lookup? (key : Value) (entries : List (Value × Value)) : Option Value :=
  (entries.find? fun e => e.1.sameKey key).map (·.2)

/-- The value under a key that is a text. -/
def field? (name : String) (entries : List (Value × Value)) : Option Value :=
  lookup? (text name) entries

/-- Entries with one under a key: in the place of the key if it is there already, otherwise at the
end. -/
def insert {α : Type} (key : Value) (value : α) : List (Value × α) → List (Value × α)
  | [] => [(key, value)]
  | (k, v) :: rest => if k.sameKey key then (k, value) :: rest else (k, v) :: insert key value rest

/-! ## Sets -/

/-- The places that there are for some keys of a set: eight for up to four keys, and otherwise the
least power of two that is more than twice their number. -/
def placeCount (keys : Nat) : Nat :=
  if keys < 5 then 8 else Number.twoTo (Nat.log2 (2 * keys) + 1)

/-- The remainder of a number, with its sign; that of an infinite one is fixed. -/
def remainder? : Int ⊕ Float → Option Int
  | .inl n => some (n.sign * (n.natAbs % Number.modulus : Nat))
  | .inr x =>
    let size : Int := if x.isFinite then (Number.magnitude x).remainder else 314159
    if x.isNaN then none else some (if Number.signBit x then -size else size)

/-- The number of 64 binary digits that a number is placed by. One less than zero goes with two
less than zero. -/
def placingNumber? (key : Value) : Option Nat := do
  let r ← remainder? (← key.number?)
  return ((if r = -1 then -2 else r) % Number.twoTo 64).toNat

/-- A set of the keys. If all of them are numbers, they are placed one after another; texts and
others have no number that could be known, and stand as they come. -/
def ofKeys (keys : List Value) : Value :=
  match keys.mapM fun key => key.placingNumber?.map (·, key) with
  | some numbered => set (Placement.ofList (placeCount keys.length) numbered).toList
  | none => set keys

end Value

end MapMetrics
