import MapMetrics.Proofs.Query.Outcome

/-!
# Transcripts of queries

What a run reads is a list of requests with their answers, its transcript. A query is deterministic:
given the answers, its events and its result are fixed, whoever answered and whatever happened
between two requests. What is shown of a query along every transcript therefore holds of its runs
against every view, and what a view vouches for in each of its answers holds of the whole transcript
of a run.
-/

namespace MapMetrics

/-- A request with its answer. -/
inductive Exchange where
  /-- The objects are enumerated. -/
  | objects (answer : Except Failure (List ObjectInfo))
  /-- A configuration is looked up. -/
  | config (name : String) (answer : Except Failure (Option MapConfig))
  /-- Counters are fetched. -/
  | stats (name : String) (answer : Except Failure MapStats)

namespace Exchange

/-- The answer is the one that some answers give to the request. -/
def AnsweredBy (a : Answers) : Exchange → Prop
  | objects answer => answer = a.objects
  | config name answer => answer = a.config name
  | stats name answer => answer = a.stats name

/-- The configuration that a lookup finds. -/
def found? : Exchange → Option MapConfig
  | config _ (.ok found) => found
  | _ => none

/-- The counters that are fetched, or the failure to fetch them, with the name that is asked for. -/
def reading? : Exchange → Option (String × Except Failure MapStats)
  | stats name answer => some (name, answer)
  | _ => none

end Exchange

namespace Query

variable {α β σ : Type}

/-- Along a transcript, a query reports these events and comes to this result. -/
inductive Follows : Query α → List Exchange → List Event → Except Raised α → Prop
  /-- A query that has ended asks for nothing. -/
  | done (x : α) : Follows (done x) [] [] (.ok x)
  /-- A query that has failed asks for nothing. -/
  | raise (r : Raised) : Follows (raise r) [] [] (.error r)
  /-- An event is reported before the rest. -/
  | note {e : Event} {next : Query α} {transcript : List Exchange} {events : List Event}
      {result : Except Raised α} : Follows next transcript events result →
      Follows (note e next) transcript (e :: events) result
  /-- The rest depends on the objects. -/
  | objects {next : Except Failure (List ObjectInfo) → Query α}
      {answer : Except Failure (List ObjectInfo)} {transcript : List Exchange}
      {events : List Event} {result : Except Raised α} :
      Follows (next answer) transcript events result →
      Follows (objects next) (.objects answer :: transcript) events result
  /-- The rest depends on the configuration. -/
  | config {name : String} {next : Except Failure (Option MapConfig) → Query α}
      {answer : Except Failure (Option MapConfig)} {transcript : List Exchange}
      {events : List Event} {result : Except Raised α} :
      Follows (next answer) transcript events result →
      Follows (config name next) (.config name answer :: transcript) events result
  /-- The rest depends on the counters. -/
  | stats {name : String} {next : Except Failure MapStats → Query α}
      {answer : Except Failure MapStats} {transcript : List Exchange}
      {events : List Event} {result : Except Raised α} :
      Follows (next answer) transcript events result →
      Follows (stats name next) (.stats name answer :: transcript) events result

/-- The transcript of a run. -/
def transcript (view : View σ) : Query α → σ → List Exchange
  | done _, _ => []
  | raise _, _ => []
  | note _ next, s => transcript view next s
  | objects next, s =>
    let (answer, s) := view.objects s
    .objects answer :: transcript view (next answer) s
  | config name next, s =>
    let (answer, s) := view.config name s
    .config name answer :: transcript view (next answer) s
  | stats name next, s =>
    let (answer, s) := view.stats name s
    .stats name answer :: transcript view (next answer) s

/-- A run follows its transcript. -/
theorem follows_transcript (view : View σ) (q : Query α) (s : σ) :
    q.Follows (q.transcript view s) (run view q s).1.events (run view q s).1.result := by
  induction q generalizing s with
  | done x => exact .done x
  | raise r => exact .raise r
  | note e next ih => exact .note (ih s)
  | objects next ih => exact .objects (ih _ _)
  | config name next ih => exact .config (ih _ _)
  | stats name next ih => exact .stats (ih _ _)

/-- Along a transcript of fixed answers a query comes to their outcome. -/
theorem Follows.eq_outcome {a : Answers} {q : Query α} {transcript : List Exchange}
    {events : List Event} {result : Except Raised α} (h : q.Follows transcript events result)
    (ha : ∀ e ∈ transcript, e.AnsweredBy a) :
    events = (q.outcome a).events ∧ result = q.result a := by
  induction h with
  | done x => exact ⟨rfl, rfl⟩
  | raise r => exact ⟨rfl, rfl⟩
  | note _ ih =>
    obtain ⟨he, hr⟩ := ih ha
    exact ⟨congrArg (_ :: ·) he, hr⟩
  | objects _ ih =>
    obtain ⟨rfl, hrest⟩ := List.forall_mem_cons.mp ha
    exact ih hrest
  | config _ ih =>
    obtain ⟨rfl, hrest⟩ := List.forall_mem_cons.mp ha
    exact ih hrest
  | stats _ ih =>
    obtain ⟨rfl, hrest⟩ := List.forall_mem_cons.mp ha
    exact ih hrest

/-- Fixed answers have a transcript. -/
theorem exists_follows (a : Answers) (q : Query α) :
    ∃ transcript, (∀ e ∈ transcript, e.AnsweredBy a) ∧
      q.Follows transcript (q.outcome a).events (q.result a) := by
  induction q with
  | done x => exact ⟨[], by simp, .done x⟩
  | raise r => exact ⟨[], by simp, .raise r⟩
  | note e next ih =>
    obtain ⟨t, ht, h⟩ := ih
    exact ⟨t, ht, .note h⟩
  | objects next ih =>
    obtain ⟨t, ht, h⟩ := ih a.objects
    exact ⟨.objects a.objects :: t, List.forall_mem_cons.mpr ⟨rfl, ht⟩, .objects h⟩
  | config name next ih =>
    obtain ⟨t, ht, h⟩ := ih (a.config name)
    exact ⟨.config name (a.config name) :: t, List.forall_mem_cons.mpr ⟨rfl, ht⟩, .config h⟩
  | stats name next ih =>
    obtain ⟨t, ht, h⟩ := ih (a.stats name)
    exact ⟨.stats name (a.stats name) :: t, List.forall_mem_cons.mpr ⟨rfl, ht⟩, .stats h⟩

end Query

/-! ## Answers that a view vouches for -/

/-- Under an invariant, which the answers keep, all answers of a view have a property. -/
structure View.Vouches {σ : Type} (view : View σ) (invariant : σ → Prop)
    (property : Exchange → Prop) : Prop where
  /-- The objects. -/
  objects : ∀ s, invariant s →
    property (.objects (view.objects s).1) ∧ invariant (view.objects s).2
  /-- The configurations. -/
  config : ∀ name s, invariant s →
    property (.config name (view.config name s).1) ∧ invariant (view.config name s).2
  /-- The counters. -/
  stats : ∀ name s, invariant s →
    property (.stats name (view.stats name s).1) ∧ invariant (view.stats name s).2

namespace Query

variable {α β σ : Type}

/-- What a view vouches for holds of the whole transcript of a run. -/
theorem forall_transcript {view : View σ} {invariant : σ → Prop} {property : Exchange → Prop}
    (h : view.Vouches invariant property) (q : Query α) {s : σ} (hs : invariant s) :
    ∀ e ∈ q.transcript view s, property e := by
  induction q generalizing s with
  | done x => intro e he; cases he
  | raise r => intro e he; cases he
  | note e next ih => exact ih hs
  | objects next ih =>
    obtain ⟨hp, hi⟩ := h.objects s hs
    exact List.forall_mem_cons.mpr ⟨hp, ih _ hi⟩
  | config name next ih =>
    obtain ⟨hp, hi⟩ := h.config name s hs
    exact List.forall_mem_cons.mpr ⟨hp, ih _ hi⟩
  | stats name next ih =>
    obtain ⟨hp, hi⟩ := h.stats name s hs
    exact List.forall_mem_cons.mpr ⟨hp, ih _ hi⟩

end Query

/-- From a state on, a view gives these answers, whatever else may change. -/
def View.Steady {σ : Type} (view : View σ) (a : Answers) (s : σ) : Prop :=
  ∃ invariant, view.Vouches invariant (·.AnsweredBy a) ∧ invariant s

/-- A view that stays in its state gives the same answers from there on. -/
theorem View.Gives.steady {σ : Type} {view : View σ} {s : σ} {a : Answers} (h : view.Gives s a) :
    view.Steady a s := by
  refine ⟨fun after => after = s, ⟨?_, ?_, ?_⟩, rfl⟩
  · rintro _ rfl
    rw [h.objects]
    exact ⟨rfl, rfl⟩
  · rintro name _ rfl
    rw [h.config]
    exact ⟨rfl, rfl⟩
  · rintro name _ rfl
    rw [h.stats]
    exact ⟨rfl, rfl⟩

namespace Query

variable {α β σ : Type}

/-- A run against steady answers comes to their outcome. -/
theorem run_of_steady {view : View σ} {s : σ} {a : Answers} (h : view.Steady a s) (q : Query α) :
    (run view q s).1.events = (q.outcome a).events ∧ (run view q s).1.result = q.result a := by
  obtain ⟨invariant, hvouches, hs⟩ := h
  exact (follows_transcript view q s).eq_outcome (forall_transcript hvouches q hs)

/-! ## Composed queries -/

/-- A query after another one follows the two transcripts in turn, unless the first one fails. -/
theorem Follows.of_bind {q : Query α} {f : α → Query β} {transcript : List Exchange}
    {events : List Event} {result : Except Raised β}
    (h : (q >>= f).Follows transcript events result) :
    (∃ r, q.Follows transcript events (.error r) ∧ result = .error r) ∨
      ∃ x first second firstEvents secondEvents,
        q.Follows first firstEvents (.ok x) ∧ (f x).Follows second secondEvents result ∧
        transcript = first ++ second ∧ events = firstEvents ++ secondEvents := by
  change (q.andThen f).Follows transcript events result at h
  induction q generalizing transcript events with
  | done x => exact .inr ⟨x, [], _, [], _, .done x, h, rfl, rfl⟩
  | raise r =>
    cases h
    exact .inl ⟨r, .raise r, rfl⟩
  | note e next ih =>
    cases h with
    | note h =>
      rcases ih h with ⟨r, hq, hr⟩ | ⟨x, t, u, es, fs, hq, hf, rfl, rfl⟩
      · exact .inl ⟨r, .note hq, hr⟩
      · exact .inr ⟨x, t, u, e :: es, fs, .note hq, hf, rfl, rfl⟩
  | objects next ih =>
    cases h with
    | objects h =>
      rcases ih _ h with ⟨r, hq, hr⟩ | ⟨x, t, u, es, fs, hq, hf, rfl, rfl⟩
      · exact .inl ⟨r, .objects hq, hr⟩
      · exact .inr ⟨x, _ :: t, u, es, fs, .objects hq, hf, rfl, rfl⟩
  | config name next ih =>
    cases h with
    | config h =>
      rcases ih _ h with ⟨r, hq, hr⟩ | ⟨x, t, u, es, fs, hq, hf, rfl, rfl⟩
      · exact .inl ⟨r, .config hq, hr⟩
      · exact .inr ⟨x, _ :: t, u, es, fs, .config hq, hf, rfl, rfl⟩
  | stats name next ih =>
    cases h with
    | stats h =>
      rcases ih _ h with ⟨r, hq, hr⟩ | ⟨x, t, u, es, fs, hq, hf, rfl, rfl⟩
      · exact .inl ⟨r, .stats hq, hr⟩
      · exact .inr ⟨x, _ :: t, u, es, fs, .stats hq, hf, rfl, rfl⟩

/-- An attempt follows the transcript of what is attempted, and succeeds with its result. -/
theorem Follows.of_attempt {q : Query α} {transcript : List Exchange} {events : List Event}
    {result : Except Raised (Except Raised α)}
    (h : q.attempt.Follows transcript events result) :
    ∃ attempted, q.Follows transcript events attempted ∧ result = .ok attempted := by
  induction q generalizing transcript events with
  | done x => cases h; exact ⟨_, .done x, rfl⟩
  | raise r => cases h; exact ⟨_, .raise r, rfl⟩
  | note e next ih =>
    cases h with
    | note h =>
      obtain ⟨o, hq, hr⟩ := ih h
      exact ⟨o, .note hq, hr⟩
  | objects next ih =>
    cases h with
    | objects h =>
      obtain ⟨o, hq, hr⟩ := ih _ h
      exact ⟨o, .objects hq, hr⟩
  | config name next ih =>
    cases h with
    | config h =>
      obtain ⟨o, hq, hr⟩ := ih _ h
      exact ⟨o, .config hq, hr⟩
  | stats name next ih =>
    cases h with
    | stats h =>
      obtain ⟨o, hq, hr⟩ := ih _ h
      exact ⟨o, .stats hq, hr⟩

/-- What comes after an attempt goes on with its result, whatever that is. -/
theorem Follows.of_attempt_bind {q : Query α} {f : Except Raised α → Query β}
    {transcript : List Exchange} {events : List Event} {result : Except Raised β}
    (h : (q.attempt >>= f).Follows transcript events result) :
    ∃ attempted first second firstEvents secondEvents,
      q.Follows first firstEvents attempted ∧ (f attempted).Follows second secondEvents result ∧
      transcript = first ++ second ∧ events = firstEvents ++ secondEvents := by
  rcases h.of_bind with ⟨r, ha, -⟩ | ⟨attempted, t, u, es, fs, ha, hf, rfl, rfl⟩
  · obtain ⟨_, -, hr⟩ := ha.of_attempt
    cases hr
  · obtain ⟨_, hq, hr⟩ := ha.of_attempt
    cases hr
    exact ⟨attempted, t, u, es, fs, hq, hf, rfl, rfl⟩

/-- A given result asks for nothing. -/
theorem Follows.of_ofExcept {x : Except Raised α} {transcript : List Exchange}
    {events : List Event} {result : Except Raised α}
    (h : (ofExcept x).Follows transcript events result) :
    transcript = [] ∧ events = [] ∧ result = x := by
  cases x with
  | ok x => cases h; exact ⟨rfl, rfl, rfl⟩
  | error r => cases h; exact ⟨rfl, rfl, rfl⟩

end Query

end MapMetrics
