import MapMetrics.Journal
import MapMetrics.Map.Stats

/-!
# Reading a cluster

A query is a program that reads a cluster by three kinds of requests: it enumerates the objects,
looks up configurations and fetches counters. What it does next depends on each answer, and nothing
is said about who answers: a view answers requests from a state, which an answer may change.
-/

namespace MapMetrics

/-- A program that reads a cluster. -/
inductive Query (α : Type) : Type where
  /-- Ends with a result. -/
  | done (result : α)
  /-- Ends with a failure. -/
  | raise (r : Raised)
  /-- Reports an event. -/
  | note (event : Event) (next : Query α)
  /-- Enumerates the objects. -/
  | objects (next : Except Failure (List ObjectInfo) → Query α)
  /-- Looks up a configuration. -/
  | config (name : String) (next : Except Failure (Option MapConfig) → Query α)
  /-- Fetches counters. -/
  | stats (name : String) (next : Except Failure MapStats → Query α)

/-- Answers to requests, from a state. -/
structure View (σ : Type) where
  /-- The objects. -/
  objects : σ → Except Failure (List ObjectInfo) × σ
  /-- The configuration of an object. -/
  config : String → σ → Except Failure (Option MapConfig) × σ
  /-- The counters of a map. -/
  stats : String → σ → Except Failure MapStats × σ

namespace Query

variable {α β σ : Type}

/-- A query after another one. -/
def andThen (q : Query α) (f : α → Query β) : Query β :=
  match q with
  | done a => f a
  | raise r => raise r
  | note e next => note e (next.andThen f)
  | objects next => objects fun answer => (next answer).andThen f
  | config name next => config name fun answer => (next answer).andThen f
  | stats name next => stats name fun answer => (next answer).andThen f

instance : Monad Query where
  pure := done
  bind := andThen

/-- A query that ends with what another one came to, even with its failure. -/
def attempt : Query α → Query (Except Raised α)
  | done a => done (.ok a)
  | raise r => done (.error r)
  | note e next => note e next.attempt
  | objects next => objects fun answer => (next answer).attempt
  | config name next => config name fun answer => (next answer).attempt
  | stats name next => stats name fun answer => (next answer).attempt

/-- Ends with a result or a failure. -/
def ofExcept : Except Raised α → Query α
  | .ok a => done a
  | .error r => raise r

/-- Reports an event. -/
def report (level : Level) (message : String) : Query Unit :=
  note ⟨level, message⟩ (done ())

/-- Enumerates the objects, or fails. -/
def allObjects : Query (List ObjectInfo) :=
  objects fun
    | .ok infos => done infos
    | .error f => raise ⟨f, none⟩

/-- Looks up a configuration, and does not fail. -/
def lookupConfig (name : String) : Query (Except Failure (Option MapConfig)) :=
  config name done

/-- Fetches counters, and does not fail. -/
def fetchStats (name : String) : Query (Except Failure MapStats) :=
  stats name done

/-- Runs a query against a view from a state. -/
def run (view : View σ) : Query α → σ → Journal α × σ
  | done a, s => (pure a, s)
  | raise r, s => (.throw r, s)
  | note e next, s =>
    let (outcome, s) := run view next s
    ({ outcome with events := e :: outcome.events }, s)
  | objects next, s =>
    let (answer, s) := view.objects s
    run view (next answer) s
  | config name next, s =>
    let (answer, s) := view.config name s
    run view (next answer) s
  | stats name next, s =>
    let (answer, s) := view.stats name s
    run view (next answer) s

end Query

end MapMetrics
