import MapMetrics.Cluster.Query
import MapMetrics.Proofs.Query.Outcome

/-!
# Running composed queries

Whoever answers, a query after another one starts in the state in which the other one ends, and an
attempt ends in the state of what was attempted. Events do not matter to what comes next, so that a
run is evaluated to its result and its last state.
-/

namespace MapMetrics.Query

variable {α β γ σ : Type}

/-- Of three queries in a row it does not matter which two are taken together. -/
protected theorem bind_assoc (q : Query α) (f : α → Query β) (g : β → Query γ) :
    q >>= f >>= g = q >>= fun x => f x >>= g := by
  change (q.andThen f).andThen g = q.andThen fun x => (f x).andThen g
  induction q with
  | done x => rfl
  | raise r => rfl
  | note e next ih => exact congrArg (note e) ih
  | objects next ih => exact congrArg objects (funext ih)
  | config name next ih => exact congrArg (config name) (funext ih)
  | stats name next ih => exact congrArg (stats name) (funext ih)

/-! ## Runs -/

variable (view : View σ)

/-- The result of a run from a state, and the state after it. -/
def evaluate (q : Query α) (s : σ) : Except Raised α × σ :=
  ((run view q s).1.result, (run view q s).2)

@[simp] theorem evaluate_pure (x : α) (s : σ) : (pure x : Query α).evaluate view s = (.ok x, s) :=
  rfl

@[simp] theorem evaluate_note (e : Event) (next : Query α) (s : σ) :
    (note e next).evaluate view s = next.evaluate view s := rfl

@[simp] theorem evaluate_report (level : Level) (message : String) (s : σ) :
    (report level message).evaluate view s = (.ok (), s) := rfl

/-- The second query starts where the first one ends, unless this fails. -/
theorem evaluate_bind (q : Query α) (f : α → Query β) (s : σ) :
    (q >>= f).evaluate view s =
      match q.evaluate view s with
      | (.ok x, after) => (f x).evaluate view after
      | (.error r, after) => (.error r, after) := by
  change (q.andThen f).evaluate view s = _
  induction q generalizing s with
  | done x => rfl
  | raise r => rfl
  | note e next ih => exact ih s
  | objects next ih => exact ih _ _
  | config name next ih => exact ih _ _
  | stats name next ih => exact ih _ _

/-- What is made of a result afterwards changes no state. -/
theorem evaluate_bind_pure (q : Query α) (f : α → β) (s : σ) :
    (q >>= fun x => pure (f x)).evaluate view s =
      ((q.evaluate view s).1.map f, (q.evaluate view s).2) := by
  rw [evaluate_bind]
  cases h : (q.evaluate view s).1 <;> rw [← Prod.eta (q.evaluate view s), h] <;> rfl

/-- An attempt always succeeds, with the result of what was attempted. -/
theorem evaluate_attempt (q : Query α) (s : σ) :
    q.attempt.evaluate view s = (.ok (q.evaluate view s).1, (q.evaluate view s).2) := by
  induction q generalizing s with
  | done x => rfl
  | raise r => rfl
  | note e next ih => exact ih s
  | objects next ih => exact ih _ _
  | config name next ih => exact ih _ _
  | stats name next ih => exact ih _ _

/-- The events of the second query come after those of the first one. -/
theorem events_bind_of_ok {q : Query α} {x : α} {s after : σ}
    (h : q.evaluate view s = (.ok x, after)) (f : α → Query β) :
    ((q >>= f).run view s).1.events =
      (q.run view s).1.events ++ ((f x).run view after).1.events := by
  change ((q.andThen f).run view s).1.events = _
  induction q generalizing s with
  | done y =>
    obtain ⟨hx, hs⟩ := Prod.mk.inj h
    obtain rfl := Except.ok.inj hx
    rw [← hs]
    rfl
  | raise r => cases (Prod.mk.inj h).1
  | note e next ih => exact congrArg (e :: ·) (ih h)
  | objects next ih => exact ih _ h
  | config name next ih => exact ih _ h
  | stats name next ih => exact ih _ h

/-- What is made of a result afterwards reports nothing. -/
theorem events_bind_pure (q : Query α) (f : α → β) (s : σ) :
    ((q >>= fun x => pure (f x)).run view s).1.events = (q.run view s).1.events := by
  change ((q.andThen fun x => done (f x)).run view s).1.events = _
  induction q generalizing s with
  | done x => rfl
  | raise r => rfl
  | note e next ih => exact congrArg (e :: ·) (ih s)
  | objects next ih => exact ih _ _
  | config name next ih => exact ih _ _
  | stats name next ih => exact ih _ _

/-- An attempt reports what is attempted. -/
@[simp] theorem events_attempt (q : Query α) (s : σ) :
    (q.attempt.run view s).1.events = (q.run view s).1.events := by
  induction q generalizing s with
  | done x => rfl
  | raise r => rfl
  | note e next ih => exact congrArg (e :: ·) (ih s)
  | objects next ih => exact ih _ _
  | config name next ih => exact ih _ _
  | stats name next ih => exact ih _ _

/-- Against fixed answers a run has their result and changes nothing. -/
theorem evaluate_of_gives {view : View σ} {s : σ} {a : Answers} (h : view.Gives s a)
    (q : Query α) : q.evaluate view s = (q.result a, s) := by
  rw [evaluate, run_eq_outcome h, result]

end MapMetrics.Query
