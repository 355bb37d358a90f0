import MapMetrics.CommandLine.Arguments
import Mathlib.Data.List.Basic

/-!
# What arguments are read as

A dashed argument names options by a long name, with or without a value after an equals sign, or by
letters. Arguments are read one after another, and what is read of them is told by a relation with
one case for each kind of argument: the two dashes, a dashed argument that is complete, one that
takes the next argument, and a word.
-/

namespace MapMetrics.CommandLine

namespace Arguments

variable {ι : Type} {spec : CommandSpec ι} {arg : String}

/-! ## One argument -/

/-- What arguments are read as. -/
inductive Reads (spec : CommandSpec ι) : List String → Arguments ι → Prop where
  | nil : Reads spec [] {}
  /-- Two dashes end the options. -/
  | dashes (rest : List String) : Reads spec ("--" :: rest) { words := rest }
  /-- A dashed argument that is complete. -/
  | complete {arg : String} {rest : List String} {options : List (ι × Option String)}
      {a : Arguments ι} (hne : arg ≠ "--") (hdashed : isDashed arg = true)
      (h : ofDashed spec arg = .ok { options := options }) (hrest : Reads spec rest a) :
      Reads spec (arg :: rest) { a with options := options ++ a.options }
  /-- A dashed argument that takes the next one. -/
  | pending {arg value name : String} {id : ι} {rest : List String}
      {options : List (ι × Option String)} {a : Arguments ι} (hne : arg ≠ "--")
      (hdashed : isDashed arg = true)
      (h : ofDashed spec arg = .ok { options := options, pending := some (id, name) })
      (hrest : Reads spec rest a) :
      Reads spec (arg :: value :: rest)
        { a with options := options ++ (id, some value) :: a.options }
  /-- A word. -/
  | word {arg : String} {rest : List String} {a : Arguments ι} (hword : isDashed arg = false)
      (hspec : spec.interspersed = true) (hrest : Reads spec rest a) :
      Reads spec (arg :: rest) (a.consWord arg)
  /-- The first word, with whatever stands behind it. -/
  | words {arg : String} {rest : List String} (hword : isDashed arg = false)
      (hspec : spec.interspersed = false) : Reads spec (arg :: rest) { words := arg :: rest }

/-- A dashed argument that gives an option with its value, or a flag. -/
theorem Reads.consOption {id : ι} {value : Option String} {rest : List String} {a : Arguments ι}
    (hrest : Reads spec rest a) (hne : arg ≠ "--") (hdashed : isDashed arg = true)
    (h : ofDashed spec arg = .ok { options := [(id, value)] }) :
    Reads spec (arg :: rest) (a.consOption id value) :=
  .complete hne hdashed h hrest

end Arguments

end MapMetrics.CommandLine
