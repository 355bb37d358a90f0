import MapMetrics.Proofs.Query.Outcome
import Mathlib.Algebra.BigOperators.Group.Multiset.Basic
import Mathlib.Data.Multiset.Filter

/-!
# Warnings of queries

A warning says what has been left out of a result. Against fixed answers the warnings of a query
after another one are those of the two, unless the first one fails; other events are no part of
them, and in which order warnings come is not looked at.
-/

namespace MapMetrics

/-- The warnings among events, each as often as it is given. -/
def Event.warnings (events : List Event) : Multiset Event :=
  Multiset.filter (fun e => e.level = .warning) events

namespace Event

theorem warnings_append (es fs : List Event) : warnings (es ++ fs) = warnings es + warnings fs := by
  rw [warnings, ← Multiset.coe_add, Multiset.filter_add]
  rfl

theorem warnings_flatMap {β : Type} (events : β → List Event) (xs : List β) :
    warnings (xs.flatMap events) = (xs.map fun x => warnings (events x)).sum := by
  induction xs with
  | nil => rfl
  | cons x rest ih => rw [List.flatMap_cons, warnings_append, ih, List.map_cons, List.sum_cons]

/-- The order of events does not matter. -/
theorem warnings_of_perm {es fs : List Event} (h : es.Perm fs) : warnings es = warnings fs :=
  congrArg (Multiset.filter _) (Multiset.coe_eq_coe.mpr h)

end Event

namespace Query

variable {α β : Type} (a : Answers)

/-- The warnings of a query when the answers are fixed. -/
def warnings (q : Query α) : Multiset Event :=
  Event.warnings (q.outcome a).events

@[simp] theorem warnings_done (x : α) : (done x).warnings a = 0 := rfl

@[simp] theorem warnings_pure (x : α) : (pure x : Query α).warnings a = 0 := rfl

@[simp] theorem warnings_raise (r : Raised) : (raise r : Query α).warnings a = 0 := rfl

@[simp] theorem warnings_lookupConfig (name : String) : (lookupConfig name).warnings a = 0 := rfl

@[simp] theorem warnings_fetchStats (name : String) : (fetchStats name).warnings a = 0 := rfl

@[simp] theorem warnings_report_debug (message : String) :
    (report .debug message).warnings a = 0 := rfl

@[simp] theorem warnings_report_warning (message : String) :
    (report .warning message).warnings a = {⟨.warning, message⟩} := rfl

@[simp] theorem warnings_ofExcept (x : Except Raised α) : (ofExcept x).warnings a = 0 := by
  cases x <;> rfl

@[simp] theorem warnings_allObjects : allObjects.warnings a = 0 := by
  rw [warnings, allObjects, outcome]
  cases a.objects <;> rfl

/-- The events of a query after another one. -/
theorem events_bind (q : Query α) (f : α → Query β) :
    ((q >>= f).outcome a).events = (q.outcome a).events ++
      match q.result a with
      | .ok x => ((f x).outcome a).events
      | .error _ => [] := by
  change ((q.andThen f).outcome a).events = _
  induction q with
  | done x => rfl
  | raise r => rfl
  | note e next ih => exact congrArg (e :: ·) ih
  | objects next ih => exact ih _
  | config name next ih => exact ih _
  | stats name next ih => exact ih _

/-- The warnings of a query after another one are those of both, unless the first one fails. -/
theorem warnings_bind (q : Query α) (f : α → Query β) :
    (q >>= f).warnings a = q.warnings a +
      match q.result a with
      | .ok x => (f x).warnings a
      | .error _ => 0 := by
  rw [warnings, events_bind, Event.warnings_append]
  cases q.result a <;> rfl

/-- The warnings of a query whose first part has a result. -/
theorem warnings_bind_of_ok {q : Query α} {x : α} (h : q.result a = .ok x) (f : α → Query β) :
    (q >>= f).warnings a = q.warnings a + (f x).warnings a := by
  rw [warnings_bind, h]

/-- The warnings of a query whose first part fails. -/
theorem warnings_bind_of_error {q : Query α} {r : Raised} (h : q.result a = .error r)
    (f : α → Query β) : (q >>= f).warnings a = q.warnings a := by
  rw [warnings_bind, h, add_zero]

/-- What is attempted gives its warnings. -/
@[simp] theorem warnings_attempt (q : Query α) : q.attempt.warnings a = q.warnings a := by
  have hevents : (q.attempt.outcome a).events = (q.outcome a).events := by
    induction q with
    | done x => rfl
    | raise r => rfl
    | note e next ih => exact congrArg (e :: ·) ih
    | objects next ih => exact ih _
    | config name next ih => exact ih _
    | stats name next ih => exact ih _
  rw [warnings, hevents, warnings]

end Query

end MapMetrics
