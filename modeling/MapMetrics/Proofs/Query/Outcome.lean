import MapMetrics.Cluster.View

/-!
# Queries against fixed answers

As long as nobody changes what is asked about, every request gets the same answer whenever it is
made, and a query has one outcome that says nothing about states. Such an outcome is compositional:
that of a query after another one is made of the outcomes of the two. A cluster in memory answers in
this way, so that what is shown for fixed answers holds for every run against it.
-/

namespace MapMetrics

/-- An answer to every request. -/
structure Answers where
  /-- The objects. -/
  objects : Except Failure (List ObjectInfo)
  /-- The configurations of objects. -/
  config : String → Except Failure (Option MapConfig)
  /-- The counters of maps. -/
  stats : String → Except Failure MapStats

/-- In a state, the view gives these answers, and stays in the state. -/
structure View.Gives {σ : Type} (view : View σ) (s : σ) (a : Answers) : Prop where
  /-- The objects. -/
  objects : view.objects s = (a.objects, s)
  /-- The configurations of objects. -/
  config : ∀ name, view.config name s = (a.config name, s)
  /-- The counters of maps. -/
  stats : ∀ name, view.stats name s = (a.stats name, s)

/-- What a cluster answers. -/
def Cluster.answers (c : Cluster) : Answers where
  objects := c.distributedObjects
  config name := c.mapConfig name
  stats name := c.mapStats name

/-- A cluster in memory gives its answers as long as it stays as it is. -/
theorem Cluster.view_gives (c : Cluster) : Cluster.view.Gives c c.answers :=
  ⟨rfl, fun _ => rfl, fun _ => rfl⟩

@[simp] theorem mapError_ok {ε ε' α : Type} (f : ε → ε') (x : α) :
    (Except.ok x).mapError f = .ok x := rfl

@[simp] theorem mapError_error {ε ε' α : Type} (f : ε → ε') (e : ε) :
    (Except.error e : Except ε α).mapError f = .error (f e) := rfl

/-- What has a value has it as its result. -/
theorem eq_ok_of_toOption {ε α : Type} {x : Except ε α} {a : α} (h : x.toOption = some a) :
    x = .ok a := by
  cases x with
  | error e => cases h
  | ok b => rw [Option.some.inj h]

namespace Query

variable {α β σ : Type}

/-- What a query comes to when the answers are fixed. -/
def outcome (a : Answers) : Query α → Journal α
  | done x => pure x
  | raise r => .throw r
  | note e next => { outcome a next with events := e :: (outcome a next).events }
  | objects next => outcome a (next a.objects)
  | config name next => outcome a (next (a.config name))
  | stats name next => outcome a (next (a.stats name))

/-- The result of a query when the answers are fixed. -/
def result (a : Answers) (q : Query α) : Except Raised α :=
  (q.outcome a).result

/-- A run against a view that gives fixed answers comes to their outcome and changes nothing. -/
theorem run_eq_outcome {view : View σ} {s : σ} {a : Answers} (h : view.Gives s a) (q : Query α) :
    run view q s = (q.outcome a, s) := by
  induction q with
  | done x => rfl
  | raise r => rfl
  | note e next ih => rw [run, ih]; rfl
  | objects next ih => rw [run, h.objects]; exact ih _
  | config name next ih => rw [run, h.config]; exact ih _
  | stats name next ih => rw [run, h.stats]; exact ih _

/-- A run against a cluster has the result that the cluster's answers give. -/
theorem run_cluster_result (c : Cluster) (q : Query α) :
    (run Cluster.view q c).1.result = q.result c.answers := by
  rw [run_eq_outcome c.view_gives, result]

/-! ## Results of composed queries -/

variable (a : Answers)

@[simp] theorem result_done (x : α) : (done x).result a = .ok x := rfl

@[simp] theorem result_pure (x : α) : (pure x : Query α).result a = .ok x := rfl

@[simp] theorem result_raise (r : Raised) : (raise r : Query α).result a = .error r := rfl

@[simp] theorem result_note (e : Event) (next : Query α) :
    (note e next).result a = next.result a := rfl

@[simp] theorem result_report (level : Level) (message : String) :
    (report level message).result a = .ok () := rfl

@[simp] theorem result_lookupConfig (name : String) :
    (lookupConfig name).result a = .ok (a.config name) := rfl

@[simp] theorem result_fetchStats (name : String) :
    (fetchStats name).result a = .ok (a.stats name) := rfl

@[simp] theorem result_ofExcept (x : Except Raised α) : (ofExcept x).result a = x := by
  cases x <;> rfl

@[simp] theorem result_allObjects :
    allObjects.result a = a.objects.mapError fun f => ⟨f, none⟩ := by
  rw [result, allObjects, outcome]
  cases a.objects <;> rfl

/-- The result of a query after another one. -/
@[simp] theorem result_bind (q : Query α) (f : α → Query β) :
    (q >>= f).result a = (q.result a).bind fun x => (f x).result a := by
  change ((q.andThen f).outcome a).result = _
  induction q with
  | done x => rfl
  | raise r => rfl
  | note e next ih => exact ih
  | objects next ih => exact ih _
  | config name next ih => exact ih _
  | stats name next ih => exact ih _

/-- An attempt always succeeds, with the result of what was attempted. -/
@[simp] theorem result_attempt (q : Query α) : q.attempt.result a = .ok (q.result a) := by
  change (q.attempt.outcome a).result = _
  induction q with
  | done x => rfl
  | raise r => rfl
  | note e next ih => exact ih
  | objects next ih => exact ih _
  | config name next ih => exact ih _
  | stats name next ih => exact ih _

end Query

end MapMetrics
