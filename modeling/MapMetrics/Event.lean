/-!
# Events

What a run reports beside its result: a message at one of four levels. Events never influence a
result, so every part that makes some hands them back as a list, in the order in which they
happened.
-/

namespace MapMetrics

/-- The weight of an event. -/
inductive Level where
  /-- Of interest when a run is to be followed step by step. -/
  | debug
  /-- A step that is done. -/
  | info
  /-- Something left out of a result. -/
  | warning
  /-- Something that failed. -/
  | error
  deriving DecidableEq, Repr

/-- The name of a level. -/
def Level.name : Level → String
  | debug => "DEBUG"
  | info => "INFO"
  | warning => "WARNING"
  | error => "ERROR"

/-- A message at a level. -/
structure Event where
  /-- Weight. -/
  level : Level
  /-- Text. -/
  message : String
  deriving DecidableEq, Repr

/-- An event as a line of text. -/
def Event.line (e : Event) : String :=
  e.level.name ++ " " ++ e.message

end MapMetrics
