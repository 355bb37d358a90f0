import MapMetrics.Text.Quoted

/-!
# Calling conventions

A convention marks the family of implementations that a node of a plan belongs to. It has no
behaviour of its own: every convention can be converted to every other, by abstract converters.
-/

namespace MapMetrics.Planner

/-- A convention. -/
structure Convention where
  /-- Name. -/
  name : String
  /-- The class of the nodes. -/
  relClassName : String
  deriving DecidableEq, Repr, Hashable

namespace Convention

/-- The convention of physical nodes. -/
def physical : Convention := ⟨"PHYSICAL", "PhysicalRel"⟩

/-- Whether nodes can be converted to another convention. -/
def canConvert (_from _to : Convention) : Bool := true

/-- Whether abstract converters are used between two sets of traits. -/
def usesAbstractConverters {α β : Type} (_convention : Convention) (_from : α) (_to : β) : Bool :=
  true

/-- A convention as it is shown. -/
def display (c : Convention) : String := c.name

/-- A convention as an expression. -/
def expression (c : Convention) : String :=
  "Convention(name=" ++ Text.quoted c.name ++ ", rel_class_name=" ++
    Text.quoted c.relClassName ++ ")"

end Convention

end MapMetrics.Planner
