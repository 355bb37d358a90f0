import MapMetrics.Validation.Problem

/-!
# Outcomes of validation

Validation of a record looks at all of its parts, so outcomes are combined side by side and not one
after another: two outcomes together are valid only when both are, and otherwise have the problems
of both, those of the first in front.
-/

namespace MapMetrics

/-- What validation makes of a value. -/
inductive Outcome (α : Type) where
  /-- A valid result. -/
  | valid (result : α)
  /-- Problems, at least one. -/
  | invalid (first : Problem) (rest : List Problem)

namespace Outcome

variable {α β γ : Type}

/-- The problems of an outcome. -/
def problems : Outcome α → List Problem
  | valid _ => []
  | invalid first rest => first :: rest

/-- The valid result, when there is one. -/
def toOption : Outcome α → Option α
  | valid a => some a
  | invalid _ _ => none

/-- An outcome with a function of its result. -/
def map (f : α → β) : Outcome α → Outcome β
  | valid a => valid (f a)
  | invalid first rest => invalid first rest

/-- Two outcomes side by side. -/
def both : Outcome α → Outcome β → Outcome (α × β)
  | valid a, valid b => valid (a, b)
  | valid _, invalid first rest => invalid first rest
  | invalid first rest, valid _ => invalid first rest
  | invalid first rest, invalid next others => invalid first (rest ++ next :: others)

instance : Functor Outcome where
  map := map

instance : Applicative Outcome where
  pure := valid
  seq f x := (f.both (x ())).map fun p => p.1 p.2

/-- An outcome whose result must pass a further test. -/
def andThen (x : Outcome α) (f : α → Outcome β) : Outcome β :=
  match x with
  | valid a => f a
  | invalid first rest => invalid first rest

/-- An outcome seen from one step further out. -/
def within (step : Step) : Outcome α → Outcome α
  | valid a => valid a
  | invalid first rest => invalid (first.within step) (rest.map (Problem.within step))

/-- The outcome that is a single problem. -/
def complain (input : Value) (complaint : Complaint) : Outcome α :=
  invalid ⟨[], complaint, input⟩ []

/-- The outcome that has some problems, and is valid when there are none. -/
def ofProblems : List Problem → Outcome Unit
  | [] => valid ()
  | first :: rest => invalid first rest

@[simp] theorem map_valid (f : α → β) (a : α) : f <$> valid a = valid (f a) := rfl

@[simp] theorem seq_valid (f : α → β) (a : α) : valid f <*> valid a = valid (f a) := rfl

@[simp] theorem pure_eq_valid (a : α) : (pure a : Outcome α) = valid a := rfl

@[simp] theorem within_valid (step : Step) (a : α) : within step (valid a) = valid a := rfl

@[simp] theorem problems_map (f : α → β) (x : Outcome α) : (f <$> x).problems = x.problems := by
  cases x <;> rfl

/-- Side by side, the problems of the first stand before those of the second. -/
@[simp] theorem problems_seq (f : Outcome (α → β)) (x : Outcome α) :
    (f <*> x).problems = f.problems ++ x.problems := by
  cases f <;> cases x <;> simp [Seq.seq, both, map, problems]

/-- Two outcomes side by side are valid exactly when both are. -/
theorem seq_eq_valid_iff {f : Outcome (α → β)} {x : Outcome α} {b : β} :
    f <*> x = valid b ↔ ∃ g a, f = valid g ∧ x = valid a ∧ g a = b := by
  cases f <;> cases x <;> simp [Seq.seq, both, map]

/-- An outcome is valid exactly when it has no problems. -/
theorem problems_eq_nil_iff {x : Outcome α} : x.problems = [] ↔ ∃ a, x = valid a := by
  cases x <;> simp [problems]

end Outcome

end MapMetrics
