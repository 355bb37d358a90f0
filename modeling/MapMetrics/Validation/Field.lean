import MapMetrics.Number.Literal
import MapMetrics.Text.Utf8
import MapMetrics.Validation.Outcome

/-!
# Fields

How a field of a record takes a value. Fields are forgiving about the form of a value and strict
about its meaning: a truth value may be given as a number or a word, an integer as a whole real or
as text, a real as an integer or as text, but a text only as a text. Octets that are a text will do
for the text, and a set for a list. What is of the right form already is taken as it is.
-/

namespace MapMetrics.Field

open Outcome

/-- The integers of 64 bits. -/
def fitsWord (n : Int) : Bool :=
  -(Number.twoTo 63 : Nat) ≤ n && n < (Number.twoTo 63 : Nat)

/-- The integer that a real number is, when it is whole and strictly inside 64 bits. -/
def wordValue? (x : Float) : Option Int :=
  (Number.wholeValue? x).filter fun n => decide (n.natAbs < Number.twoTo 63)

/-- The words for falsehood. -/
def falseWords : List String := ["0", "off", "f", "false", "n", "no"]

/-- The words for truth. -/
def trueWords : List String := ["1", "on", "t", "true", "y", "yes"]

/-- The truth value of a word, in letters of any case. -/
def boolWord? (s : String) : Option Bool :=
  if falseWords.contains s.toLower then some false
  else if trueWords.contains s.toLower then some true
  else none

/-- The truth value of a number. -/
def boolNumber? (n : Int) : Option Bool :=
  if n = 0 then some false else if n = 1 then some true else none

private def orUnclear (v : Value) : Option Bool → Outcome Bool
  | some b => valid b
  | none => complain v .boolUnclear

/-- The text of a value that is a text or octets. Of octets it may be missing. -/
def written? : Value → Option (Option (List Char))
  | .text s => some (some s.toList)
  | .bytes octets => some (Text.Utf8.decode octets).toOption
  | _ => none

/-- A truth value: also the numbers 0 and 1 and the words for them. -/
def bool (v : Value) : Outcome Bool :=
  match v with
  | .bool b => valid b
  | .int n => if fitsWord n then orUnclear v (boolNumber? n) else complain v .notBool
  | .float x =>
    match wordValue? x with
    | some n => orUnclear v (boolNumber? n)
    | none => complain v .notBool
  | _ =>
    match written? v with
    | some s => orUnclear v (s.bind fun cs => boolWord? (String.ofList cs))
    | none => complain v .notBool

/-- The integer of a text, or a complaint about the value that has it. -/
def wholeOf (v : Value) (cs : List Char) : Outcome Int :=
  match Number.whole cs with
  | .ok n => valid n
  | .error (.length _) => complain v .tooLarge
  | .error .form => complain v .intUnclear

/-- An integer: also a truth value, a whole real number, or text. -/
def int (v : Value) : Outcome Int :=
  match v with
  | .int n => valid n
  | .bool b => valid (if b then 1 else 0)
  | .float x =>
    if !x.isFinite then complain v .notFinite
    else if (Number.wholeValue? x).isNone then complain v .fractional
    else match wordValue? x with
      | some n => valid n
      | none => complain v .tooLarge
  | _ =>
    match written? v with
    | some (some cs) => wholeOf v cs
    | some none => complain v .intUnclear
    | none => complain v .notInt

/-- A real number: also a truth value, an integer in range, or text. -/
def real (v : Value) : Outcome Float :=
  match v with
  | .float x => valid x
  | .int n =>
    let x := Number.ofInteger n
    if x.isFinite then valid x else complain v .notReal
  | .bool b => valid (if b then 1.0 else 0.0)
  | _ =>
    match written? v with
    | some s =>
      match s.bind Number.real? with
      | some x => valid x
      | none => complain v .realUnclear
    | none => complain v .notReal

/-- A text. -/
def text (v : Value) : Outcome String :=
  match written? v with
  | some (some cs) => valid (String.ofList cs)
  | some none => complain v .undecodable
  | none => complain v .notText

/-- An integer from a least value on. -/
def atLeast (least : Nat) (v : Value) : Outcome Nat :=
  (int v).andThen fun n => if (least : Int) ≤ n then valid n.toNat else complain v (.below least)

/-- A real number above zero. -/
def positive (v : Value) : Outcome Float :=
  (real v).andThen fun x => if 0.0 < x then valid x else complain v .notPositive

/-- A text with at least one character. -/
def someText (v : Value) : Outcome String :=
  (text v).andThen fun s => if s.isEmpty then complain v .emptyText else valid s

/-- Nothing, or something of another kind. -/
def perhaps {α : Type} (read : Value → Outcome α) (v : Value) : Outcome (Option α) :=
  match v with
  | .null => valid none
  | _ => some <$> read v

/-- A choice by its exact name. -/
def choice {α : Type} [Named α] (v : Value) : Outcome α :=
  match ((written? v).join).bind fun cs => Named.ofName? (String.ofList cs) with
  | some m => valid m
  | none => complain v (.notAmong (Named.names α))

/-- A lenient choice. -/
def lenient {α : Type} [Named α] (words : Vocabulary) (v : Value) : Outcome α :=
  match choose words v with
  | .ok m => valid m
  | .error reason => complain v (.refused reason)

/-- The items of a list, the first of which has the position `first`. -/
def items {α : Type} (read : Value → Outcome α) (first : Nat) : List Value → Outcome (List α)
  | [] => valid []
  | v :: rest => List.cons <$> (read v).within (.index first) <*> items read (first + 1) rest

/-- The items of a value that will do for a list. -/
def items? (v : Value) : Option (List Value) :=
  match v.opened with
  | .list vs => some vs
  | .pair first second => some [first, second]
  | .set keys => some keys
  | _ => none

/-- A list that is complained of as a sequence. -/
def sequence {α : Type} (read : Value → Outcome α) (v : Value) : Outcome (List α) :=
  match items? v with
  | some vs => items read 0 vs
  | none => complain v .notSequence

/-- The complaint about a sequence none of whose items is valid. -/
def someValid {α : Type} (read : Value → Outcome α) (whole : Value) (vs : List Value) :
    Outcome Unit :=
  if vs.any fun v => (read v).toOption.isSome then valid () else complain whole .emptySequence

/-- A sequence with at least one item. Only valid items count, so that one with nothing but
problems has its own problem too, behind those of its items. -/
def someSequence {α : Type} (read : Value → Outcome α) (v : Value) : Outcome (List α) :=
  match items? v with
  | some vs => items read 0 vs <* someValid read v vs
  | none => complain v .notSequence

/-- A list. -/
def list {α : Type} (read : Value → Outcome α) (v : Value) : Outcome (List α) :=
  match items? v with
  | some vs => items read 0 vs
  | none => complain v .notList

/-- A field that must be given. -/
def required {α : Type} (entries : List (Value × Value)) (name : String)
    (read : Value → Outcome α) : Outcome α :=
  (match Value.field? name entries with
    | some v => read v
    | none => complain (.mapping entries) .missing).within (.field name)

/-- A field that has a value of its own when it is not given. -/
def optional {α : Type} (entries : List (Value × Value)) (name : String) (default : α)
    (read : Value → Outcome α) : Outcome α :=
  match Value.field? name entries with
  | some v => (read v).within (.field name)
  | none => valid default

/-- The step that a key of a mapping makes in a path: integers of 64 bits are positions, and other
keys show as expressions, if they can be written. -/
def keyStep (key : Value) : Step :=
  match key with
  | .bool b => .index (if b then 1 else 0)
  | .int n =>
    if fitsWord n then .index n
    else .field (if key.isWritable then key.literal else "<unprintable int object>")
  | _ => .field key.literal

/-- The problem of a key, when it names none of the known fields. -/
def keyProblem? (known : List String) (key value : Value) : Option Problem :=
  match key with
  | .text s => if known.contains s then none else some ⟨[.field s], .extra, value⟩
  | _ => some ⟨[keyStep key], .invalidKey, key⟩

/-- No keys other than the names of known fields. -/
def onlyKnown (known : List String) (entries : List (Value × Value)) : Outcome Unit :=
  ofProblems (entries.filterMap fun e => keyProblem? known e.1 e.2)

/-- A record, made of the entries of a mapping. -/
def record {α : Type} (model : String) (make : List (Value × Value) → Outcome α) (v : Value) :
    Outcome α :=
  match v.opened with
  | .mapping entries => make entries
  | _ => complain v (.notRecord model)

/-- A record without other keys than its fields. -/
def closedRecord {α : Type} (model : String) (known : List String)
    (make : List (Value × Value) → Outcome α) : Value → Outcome α :=
  record model fun entries => make entries <* onlyKnown known entries

end MapMetrics.Field
