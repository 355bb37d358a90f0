import MapMetrics.Choice

/-!
# Problems of validation

A problem is a complaint about a value at a place inside a larger value. The place is the path of
fields and positions from the outside in. Every complaint has a fixed code and a sentence.
-/

namespace MapMetrics

/-- One step of a path into a value. -/
inductive Step where
  /-- The field of a name. -/
  | field (name : String)
  /-- A position in a list, or a key that is an integer. -/
  | index (n : Int)
  deriving DecidableEq, Repr

/-- A step as text. -/
def Step.display : Step → String
  | field name => name
  | index n => toString n

/-- What is wrong with a value. -/
inductive Complaint where
  /-- A field that must be given is absent. -/
  | missing
  /-- A field that is not known. -/
  | extra
  /-- A key that is no text. -/
  | invalidKey
  /-- Not a mapping, where a record of this name must stand. -/
  | notRecord (model : String)
  /-- No truth value can be made of it. -/
  | boolUnclear
  /-- Nothing like a truth value. -/
  | notBool
  /-- No integer can be read from the text. -/
  | intUnclear
  /-- A real number that is not whole. -/
  | fractional
  /-- A number that is too large to be taken for an integer. -/
  | tooLarge
  /-- An infinity, or the number that is none. -/
  | notFinite
  /-- Nothing like an integer. -/
  | notInt
  /-- No real number can be read from the text. -/
  | realUnclear
  /-- Nothing like a real number. -/
  | notReal
  /-- Not a text. -/
  | notText
  /-- Octets that are no text. -/
  | undecodable
  /-- Not a list, where a fixed sequence must stand. -/
  | notSequence
  /-- Not a list. -/
  | notList
  /-- None of the names. -/
  | notAmong (names : List String)
  /-- No lenient choice. -/
  | refused (reason : Refusal)
  /-- Below the least value. -/
  | below (least : Nat)
  /-- Not above zero. -/
  | notPositive
  /-- A text without a character. -/
  | emptyText
  /-- A sequence without an item. -/
  | emptySequence
  /-- A change to a value that never changes. -/
  | frozen
  deriving DecidableEq, Repr

namespace Complaint

/-- The code of a complaint. -/
def code : Complaint → String
  | missing => "missing"
  | extra => "extra_forbidden"
  | invalidKey => "invalid_key"
  | notRecord _ => "model_type"
  | boolUnclear => "bool_parsing"
  | notBool => "bool_type"
  | intUnclear => "int_parsing"
  | fractional => "int_from_float"
  | tooLarge => "int_parsing_size"
  | notFinite => "finite_number"
  | notInt => "int_type"
  | realUnclear => "float_parsing"
  | notReal => "float_type"
  | notText => "string_type"
  | undecodable => "string_unicode"
  | notSequence => "tuple_type"
  | notList => "list_type"
  | notAmong _ => "enum"
  | refused _ => "value_error"
  | below _ => "greater_than_equal"
  | notPositive => "greater_than"
  | emptyText => "string_too_short"
  | emptySequence => "too_short"
  | frozen => "frozen_instance"

/-- Names as alternatives, each between apostrophes, the last one after a word. -/
def alternatives (names : List String) : String :=
  let marked := names.map fun s => "'" ++ s ++ "'"
  match marked.reverse with
  | [] => ""
  | [only] => only
  | last :: front => ", ".intercalate front.reverse ++ " or " ++ last

/-- The sentence of a complaint. -/
def message : Complaint → String
  | missing => "Field required"
  | extra => "Extra inputs are not permitted"
  | invalidKey => "Keys should be strings"
  | notRecord model => "Input should be a valid dictionary or instance of " ++ model
  | boolUnclear => "Input should be a valid boolean, unable to interpret input"
  | notBool => "Input should be a valid boolean"
  | intUnclear => "Input should be a valid integer, unable to parse string as an integer"
  | fractional => "Input should be a valid integer, got a number with a fractional part"
  | tooLarge => "Unable to parse input string as an integer, exceeded maximum size"
  | notFinite => "Input should be a finite number"
  | notInt => "Input should be a valid integer"
  | realUnclear => "Input should be a valid number, unable to parse string as a number"
  | notReal => "Input should be a valid number"
  | notText => "Input should be a valid string"
  | undecodable =>
    "Input should be a valid string, unable to parse raw data as a unicode string"
  | notSequence => "Input should be a valid tuple"
  | notList => "Input should be a valid list"
  | notAmong names => "Input should be " ++ alternatives names
  | refused reason => "Value error, " ++ reason.message
  | below least => "Input should be greater than or equal to " ++ toString least
  | notPositive => "Input should be greater than 0"
  | emptyText => "String should have at least 1 character"
  | emptySequence => "Tuple should have at least 1 item after validation, not 0"
  | frozen => "Instance is frozen"

end Complaint

/-- A complaint, the place it is about and the value found there. -/
structure Problem where
  /-- Path from the outside in. -/
  path : List Step
  /-- What is wrong. -/
  complaint : Complaint
  /-- The value complained of. -/
  input : Value

/-- A problem seen from one step further out. -/
def Problem.within (step : Step) (p : Problem) : Problem :=
  { p with path := step :: p.path }

/-- The events of a problem: a text that is no lenient choice is reported when it is met. -/
def Problem.events (p : Problem) : List Event :=
  match p.complaint with
  | .refused reason => reason.events
  | _ => []

/-- The heading over the problems of a record. -/
def Problem.heading (model : String) (problems : List Problem) : String :=
  toString problems.length ++ " validation error" ++ (if problems.length = 1 then "" else "s") ++
    " for " ++ model

end MapMetrics
