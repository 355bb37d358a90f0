import MapMetrics.Proofs.Query.Transcript
import MapMetrics.Report.Cycle
import Mathlib.Data.List.Forall2

/-!
# Queries under a schedule

The averages of a cycle may be computed by several workers, and then it is a schedule that decides
whose next step is taken: one request, or one event. A schedule is a list of positions, and queries
that are left when it is used up go on one after another, so that every order of steps is that of
some schedule. Whatever the schedule, each query has a course of its own, which it could have taken
alone with the same answers, and the run holds the steps of these courses and no others.
-/

namespace MapMetrics

namespace Query

variable {α β : Type}

/-- The first step of a query, and then what is made of the rest. -/
def stepThen (k : Query α → Query β) : Query α → Query β
  | done a => k (done a)
  | raise r => k (raise r)
  | note e next => note e (k next)
  | objects next => objects fun answer => k (next answer)
  | config name next => config name fun answer => k (next answer)
  | stats name next => stats name fun answer => k (next answer)

/-- What one query reads and reports, and what it comes to. -/
structure Course (α : Type) where
  /-- What is read. -/
  transcript : List Exchange
  /-- What is reported. -/
  events : List Event
  /-- The result, or what is raised instead. -/
  result : Except Raised α

/-- The query can take the course. -/
def Takes (q : Query α) (c : Course α) : Prop :=
  q.Follows c.transcript c.events c.result

/-- A course with some steps before it. -/
def Course.behind (transcript : List Exchange) (events : List Event) (c : Course α) : Course α :=
  ⟨transcript ++ c.transcript, events ++ c.events, c.result⟩

/-- Queries take courses that a run is made of. -/
structure Shares (qs : List (Query α)) (courses : List (Course α)) (transcript : List Exchange)
    (events : List Event) : Prop where
  /-- Each query takes its course. -/
  takes : List.Forall₂ Takes qs courses
  /-- What is read is what the courses read. -/
  transcript : transcript.Perm (courses.flatMap (·.transcript))
  /-- What is reported is what the courses report. -/
  events : events.Perm (courses.flatMap (·.events))

/-- What each of the courses comes to. -/
def results (courses : List (Course α)) : List (Except Raised α) :=
  courses.map (·.result)

/-- A step is that of the query, and the rest is made of what it leaves. -/
theorem Follows.of_stepThen {q : Query α} {k : Query α → Query β} {transcript : List Exchange}
    {events : List Event} {result : Except Raised β}
    (h : (q.stepThen k).Follows transcript events result) :
    ∃ next first second firstEvents secondEvents,
      (k next).Follows second secondEvents result ∧
      transcript = first ++ second ∧ events = firstEvents ++ secondEvents ∧
      ∀ c, next.Takes c → q.Takes (c.behind first firstEvents) := by
  cases q with
  | done a => exact ⟨.done a, [], _, [], _, h, rfl, rfl, fun c hc => hc⟩
  | raise r => exact ⟨.raise r, [], _, [], _, h, rfl, rfl, fun c hc => hc⟩
  | note e next =>
    cases h with
    | note h => exact ⟨next, [], _, [e], _, h, rfl, rfl, fun c hc => .note hc⟩
  | objects next =>
    cases h with
    | objects h =>
      exact ⟨next _, [.objects _], _, [], _, h, rfl, rfl, fun c hc => .objects hc⟩
  | config name next =>
    cases h with
    | config h =>
      exact ⟨next _, [.config name _], _, [], _, h, rfl, rfl, fun c hc => .config hc⟩
  | stats name next =>
    cases h with
    | stats h =>
      exact ⟨next _, [.stats name _], _, [], _, h, rfl, rfl, fun c hc => .stats hc⟩

/-- Steps before all courses can be taken before one of them. -/
private theorem perm_behind {γ : Type} {first own others others' total : List γ}
    (htotal : total.Perm (own ++ others)) (hothers : (first ++ others).Perm others') :
    (first ++ total).Perm (own ++ others') :=
  calc
    (first ++ total).Perm (first ++ (own ++ others)) := htotal.append_left first
    List.Perm _ (own ++ (first ++ others)) := List.perm_append_comm_assoc first own others
    List.Perm _ (own ++ others') := hothers.append_left own

/-- A step that one of the queries takes before anything else is a step of its course. -/
theorem Shares.behind {qs : List (Query α)} {i : Nat} {q next : Query α}
    {courses : List (Course α)} {transcript first : List Exchange} {events firstEvents : List Event}
    (hq : qs[i]? = some q) (hstep : ∀ c, next.Takes c → q.Takes (c.behind first firstEvents))
    (h : Shares (qs.set i next) courses transcript events) :
    ∃ courses', Shares qs courses' (first ++ transcript) (firstEvents ++ events) ∧
      results courses' = results courses := by
  obtain ⟨htakes, htranscript, hevents⟩ := h
  induction qs generalizing i courses transcript events with
  | nil => cases hq
  | cons p rest ih =>
    cases i with
    | zero =>
      cases hq
      cases htakes with
      | @cons _ c _ others hc hothers =>
        refine ⟨c.behind first firstEvents :: others, ⟨.cons (hstep c hc) hothers, ?_, ?_⟩, rfl⟩
        · simpa [Course.behind] using htranscript.append_left first
        · simpa [Course.behind] using hevents.append_left firstEvents
    | succ i =>
      cases htakes with
      | @cons _ c _ others hc hothers =>
        obtain ⟨others', ⟨htakes', ht, he⟩, hresults⟩ := ih hq hothers (.refl _) (.refl _)
        refine ⟨c :: others', ⟨.cons hc htakes', ?_, ?_⟩, congrArg (c.result :: ·) hresults⟩
        · exact perm_behind htranscript ht
        · exact perm_behind hevents he

end Query

namespace Report

open Query

variable {α : Type}

/-- Queries side by side under a schedule, each with its outcome. -/
def interleaved : List Nat → List (Query α) → Query (List (Except Raised α))
  | [], qs => allOutcomes qs
  | i :: schedule, qs =>
    match qs[i]? with
    | some q => q.stepThen fun next => interleaved schedule (qs.set i next)
    | none => interleaved schedule qs

/-- Without a schedule, the queries go on one after another. -/
theorem follows_allOutcomes {qs : List (Query α)} {transcript : List Exchange}
    {events : List Event} {result : Except Raised (List (Except Raised α))}
    (h : (allOutcomes qs).Follows transcript events result) :
    ∃ courses, Shares qs courses transcript events ∧ result = .ok (results courses) := by
  induction qs generalizing transcript events result with
  | nil =>
    cases h
    exact ⟨[], ⟨.nil, .refl _, .refl _⟩, rfl⟩
  | cons q rest ih =>
    obtain ⟨outcome, t, u, es, fs, hq, hrest, rfl, rfl⟩ := Follows.of_attempt_bind h
    rcases hrest.of_bind with ⟨r, ho, rfl⟩ | ⟨others, u, v, fs, gs, ho, hend, rfl, rfl⟩
    · obtain ⟨courses, -, hr⟩ := ih ho
      cases hr
    · obtain ⟨courses, ⟨htakes, ht, he⟩, hr⟩ := ih ho
      cases hr
      cases hend
      refine ⟨⟨t, es, outcome⟩ :: courses, ⟨.cons hq htakes, ?_, ?_⟩, rfl⟩
      · simpa using ht.append_left t
      · simpa using he.append_left es

/-- Under every schedule, each query has a course of its own, and the run is made of the courses. -/
theorem follows_interleaved {schedule : List Nat} {qs : List (Query α)}
    {transcript : List Exchange} {events : List Event}
    {result : Except Raised (List (Except Raised α))}
    (h : (interleaved schedule qs).Follows transcript events result) :
    ∃ courses, Shares qs courses transcript events ∧ result = .ok (results courses) := by
  induction schedule generalizing qs transcript events with
  | nil => exact follows_allOutcomes h
  | cons i schedule ih =>
    rw [interleaved] at h
    cases hq : qs[i]? with
    | none =>
      rw [hq] at h
      exact ih h
    | some q =>
      rw [hq] at h
      obtain ⟨next, first, second, firstEvents, secondEvents, hrest, rfl, rfl, hstep⟩ :=
        h.of_stepThen
      obtain ⟨courses, hshares, hr⟩ := ih hrest
      obtain ⟨courses', hshares', hresults⟩ := hshares.behind hq hstep
      exact ⟨courses', hshares', hresults ▸ hr⟩

/-- Queries in turn take courses up to the first one that fails. -/
theorem follows_inTurn {qs : List (Query α)} {transcript : List Exchange} {events : List Event}
    {result : Except Raised (List α)} (h : (inTurn qs).Follows transcript events result) :
    (∃ courses xs, Shares qs courses transcript events ∧ results courses = xs.map .ok ∧
      result = .ok xs) ∨
    ∃ q ∈ qs, ∃ c r, q.Takes c ∧ c.result = .error r ∧ c.transcript ⊆ transcript ∧
      result = .error r := by
  induction qs generalizing transcript events result with
  | nil =>
    cases h
    exact .inl ⟨[], [], ⟨.nil, .refl _, .refl _⟩, rfl, rfl⟩
  | cons q rest ih =>
    rcases Follows.of_bind h with ⟨r, hq, rfl⟩ | ⟨x, t, u, es, fs, hq, hrest, rfl, rfl⟩
    · exact .inr ⟨q, List.mem_cons_self, ⟨_, _, .error r⟩, r, hq, rfl, List.Subset.refl _, rfl⟩
    · rcases Follows.of_bind hrest with ⟨r, ho, rfl⟩ | ⟨others, u, v, fs, gs, ho, hend, rfl, rfl⟩
      · rcases ih ho with ⟨courses, xs, -, -, hr⟩ | ⟨p, hp, c, r', htakes, hc, hsub, hr⟩
        · cases hr
        · exact .inr ⟨p, List.mem_cons_of_mem _ hp, c, r', htakes, hc,
            List.subset_append_of_subset_right _ hsub, hr⟩
      · rcases ih ho with ⟨courses, xs, ⟨htakes, ht, he⟩, hxs, hr⟩ | ⟨p, -, c, r', -, -, -, hr⟩
        · cases hr
          cases hend
          refine .inl ⟨⟨t, es, .ok x⟩ :: courses, x :: others, ⟨.cons hq htakes, ?_, ?_⟩,
            congrArg (Except.ok x :: ·) hxs, rfl⟩
          · simpa using ht.append_left t
          · simpa using he.append_left es
        · cases hr

/-- Several results are all there when none of them is a failure. -/
theorem mapM_id_ok (xs : List α) :
    (xs.map .ok : List (Except Raised α)).mapM id = .ok xs := by
  induction xs with
  | nil => rfl
  | cons x rest ih =>
    rw [List.map_cons, List.mapM_cons, ih]
    rfl

/-! ## Cycles under a schedule -/

/-- One cycle, with a way to compute the averages. -/
def collectWith (averages : List MapConfig → Query (List Int)) (settings : Settings) :
    Query Report := do
  let configs ← part "Failed to enumerate maps" (configIndex settings.mapServiceName)
  let found ← part "Failed to aggregate map latency" (averages configs)
  let latencies ← .ofExcept (entries settings.keyStyle found)
  .report .debug ("Collected map metrics for " ++ toString configs.length ++ " maps")
  return counts settings.keyStyle configs ++ latencies

/-- The average latencies, computed under a schedule when they are computed side by side. -/
def averagesUnder (schedule : List Nat) (settings : Settings) (configs : List MapConfig) :
    Query (List Int) :=
  let queries := LatencyMetric.catalog.map fun m => m.average settings.isolateStatsFailures configs
  if settings.parallelAggregation then do
    let outcomes ← interleaved schedule queries
    .ofExcept (outcomes.mapM id)
  else inTurn queries

/-- One cycle under a schedule. -/
def collectUnder (schedule : List Nat) (settings : Settings) : Query Report :=
  collectWith (averagesUnder schedule settings) settings

/-- A cycle is a cycle under the schedule that lets the averages be computed one after another. -/
theorem collectUnder_nil (settings : Settings) : collectUnder [] settings = collect settings := rfl

end Report

end MapMetrics
