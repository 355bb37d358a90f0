import MapMetrics.Calendar
import MapMetrics.Text.Digit
import MapMetrics.Yaml.Character

/-!
# Timestamps

A timestamp is a year, a month and a day, and possibly a time of day, with a fraction of a second
and a zone if wanted. Reading takes the fields apart; whether the calendar has such a day is asked
afterwards, and the zone is looked at before the date.
-/

namespace MapMetrics.Yaml

open Calendar

/-- The zone of a timestamp. -/
inductive Zone where
  /-- None is given. -/
  | absent
  /-- Universal time. -/
  | universal
  /-- Ahead of or behind universal time. -/
  | offset (behind : Bool) (hours minutes : Nat)
  deriving DecidableEq, Repr

/-- The time of a timestamp. -/
structure ClockFields where
  /-- Hour. -/
  hour : Nat
  /-- Minute. -/
  minute : Nat
  /-- Second. -/
  second : Nat
  /-- Digits of the fraction. -/
  fraction : List Nat
  /-- Zone. -/
  zone : Zone
  deriving DecidableEq, Repr

/-- The fields of a timestamp. -/
structure Timestamp where
  /-- Year. -/
  year : Nat
  /-- Month. -/
  month : Nat
  /-- Day. -/
  day : Nat
  /-- Time, when there is one. -/
  clock : Option ClockFields
  deriving DecidableEq, Repr

/-- A number of at least `least` and at most `most` digits, as many as there are. -/
private def digits? (least most : Nat) (cs : List Char) : Option (List Nat × List Char) :=
  let digits := ((cs.take most).takeWhile Char.isDigit).filterMap Text.asciiDigit?
  if digits.length < least then none else some (digits, cs.drop digits.length)

private def number? (least most : Nat) (cs : List Char) : Option (Nat × List Char) :=
  (digits? least most cs).map fun p => (Text.digitsValue 10 p.1, p.2)

private def mark? (mark : Char) : List Char → Option (List Char)
  | c :: rest => if c = mark then some rest else none
  | [] => none

private def zone? (cs : List Char) : Option Zone :=
  match cs with
  | [] => some .absent
  | _ =>
    match cs.dropWhile isBlank with
    | ['Z'] => some .universal
    | sign :: rest => do
      let behind ← if sign = '-' then some true else if sign = '+' then some false else none
      let (hours, rest) ← number? 1 2 rest
      match rest with
      | [] => return .offset behind hours 0
      | _ => do
        let (minutes, rest) ← number? 2 2 (← mark? ':' rest)
        if rest.isEmpty then return .offset behind hours minutes else none
    | [] => none

private def clock? (cs : List Char) : Option ClockFields := do
  let (hour, rest) ← number? 1 2 cs
  let (minute, rest) ← number? 2 2 (← mark? ':' rest)
  let (second, rest) ← number? 2 2 (← mark? ':' rest)
  let (fraction, rest) := match rest with
    | '.' :: more => (digits? 0 more.length more).getD ([], more)
    | _ => ([], rest)
  return ⟨hour, minute, second, fraction, ← zone? rest⟩

/-- The fields of a text that is a timestamp. -/
def timestamp? (cs : List Char) : Option Timestamp := do
  let (year, rest) ← number? 4 4 cs
  let (month, rest) ← number? 1 2 (← mark? '-' rest)
  let (day, rest) ← number? 1 2 (← mark? '-' rest)
  match rest with
  | [] => return ⟨year, month, day, none⟩
  | c :: more =>
    if c = 'T' || c = 't' then return ⟨year, month, day, some (← clock? more)⟩
    else if isBlank c then return ⟨year, month, day, some (← clock? (more.dropWhile isBlank))⟩
    else none

/-- The millionths of a second of a fraction; further digits are dropped. -/
def millionths (fraction : List Nat) : Nat :=
  let shown := fraction.take 6
  Text.digitsValue 10 (shown ++ List.replicate (6 - shown.length) 0)

/-- The seconds ahead of universal time. -/
def Zone.seconds? : Zone → Except Impossible (Option Int)
  | .absent => .ok none
  | .universal => .ok (some 0)
  | .offset behind hours minutes =>
    let ahead : Int := (hours * 60 + minutes) * 60
    (checkOffset (if behind then -ahead else ahead)).map some

/-- The day, or the moment, of a timestamp. -/
def Timestamp.resolve (t : Timestamp) : Except Impossible (Date ⊕ Moment) :=
  match t.clock with
  | none => (Date.make t.year t.month t.day).map .inl
  | some c => do
    let offset ← c.zone.seconds?
    let date ← Date.make t.year t.month t.day
    let time ← TimeOfDay.make c.hour c.minute c.second (millionths c.fraction)
    return .inr ⟨date, time, offset⟩

end MapMetrics.Yaml
