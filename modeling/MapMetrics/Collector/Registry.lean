import MapMetrics.Collector.Basic

/-!
# The registry of collectors

The registry keeps collectors by their names, each name once, in the order of registration, and
merges the reports of those that are due. A collector that fails adds nothing and holds up nobody;
two reports with a common key are an error in how the collectors are put together.
-/

namespace MapMetrics

/-- Collectors in the order of registration. -/
structure Registry where
  /-- The collectors. -/
  collectors : List Collector := []

/-- The ways in which the registry refuses a request. -/
inductive RegistryError where
  /-- The name is taken. -/
  | alreadyExists (name : String)
  /-- No collector has the name. -/
  | doesNotExist (name : String)
  /-- The interval is not above zero. -/
  | intervalNotPositive
  deriving DecidableEq, Repr

/-- Why the request is refused. -/
def RegistryError.message : RegistryError → String
  | alreadyExists name => "Collector with name '" ++ name ++ "' already exists"
  | doesNotExist name => "Collector with name '" ++ name ++ "' does not exist"
  | intervalNotPositive => "Collection interval must be positive"

namespace Registry

/-- The names of the collectors in order. -/
def names (r : Registry) : List String :=
  r.collectors.map (·.name)

/-- The collector with a name. -/
def collector (name : String) (r : Registry) : Except RegistryError Collector :=
  match r.collectors.find? fun c => c.name == name with
  | some c => .ok c
  | none => .error (.doesNotExist name)

/-- Adds a collector at the end. -/
def register (c : Collector) (r : Registry) : Except RegistryError Registry :=
  if r.names.contains c.name then .error (.alreadyExists c.name)
  else .ok ⟨r.collectors ++ [c]⟩

/-- Removes a collector. -/
def unregister (name : String) (r : Registry) : Except RegistryError Registry :=
  if r.names.contains name then .ok ⟨r.collectors.filter fun c => c.name != name⟩
  else .error (.doesNotExist name)

/-- Changes the collector with a name. -/
def update (name : String) (change : Collector → Collector) (r : Registry) : Registry :=
  ⟨r.collectors.map fun c => if c.name == name then change c else c⟩

/-- Changes the collector with a name, if there is one. -/
def change (name : String) (f : Collector → Collector) (r : Registry) :
    Except RegistryError Registry := do
  let _ ← r.collector name
  return r.update name f

/-- Lets a collector collect, or not. -/
def setEnabled (name : String) (enabled : Bool) (r : Registry) : Except RegistryError Registry :=
  r.change name fun c => { c with enabled := enabled }

/-- Sets the interval of a collector. The interval is looked at before the name. -/
def setInterval (name : String) (interval : Float) (r : Registry) :
    Except RegistryError Registry :=
  if interval ≤ 0.0 then .error .intervalNotPositive
  else r.change name fun c => { c with interval := interval }

/-- Sets the time of the last completed collection. -/
def setLast (name : String) (last : Float) (r : Registry) : Except RegistryError Registry :=
  r.change name fun c => { c with last := last }

/-- The clock readings of one run over the collectors: for the collector at each position, the time
at which it is asked whether it is due, and the time after its report is merged. -/
structure Readings where
  /-- When it is asked whether it is due. -/
  due : Nat → Float
  /-- After its report is merged. -/
  merged : Nat → Float

/-- A clock that stands still. -/
def Readings.constant (now : Float) : Readings :=
  ⟨fun _ => now, fun _ => now⟩

/-- The keys of a report that another one has too, in ascending order. -/
def duplicates (merged report : Report) : List String :=
  let keys := (report.map (·.1)).filter fun k => (merged.map (·.1)).contains k
  keys.mergeSort (· ≤ ·)

/-- The failure of a collector whose report has keys that are there already. -/
def duplicateFailure (name : String) (keys : List String) : Failure :=
  .collection ("Collector '" ++ name ++ "' reported duplicate keys: " ++ ", ".intercalate keys)
    (some name)

/-- What comes of a run: the merged report or what was raised, and the collectors after it. -/
structure Round where
  /-- The merged report, or the failure. -/
  result : Except Raised Report
  /-- The collectors. -/
  collectors : List Collector

private def Round.cons (c : Collector) (o : Round) : Round :=
  { o with collectors := c :: o.collectors }

/-- Goes through collectors, the first of which stands at `position`, with what is merged so far. -/
def collectFrom (readings : Readings) (position : Nat) (merged : Report) :
    List Collector → Query Round
  | [] => do
    .report .info ("Collected a total of " ++ toString merged.length ++
      " metrics from all collectors")
    return ⟨.ok merged, []⟩
  | c :: rest =>
    if c.isDue (readings.due position) then do
      match ← c.report.attempt with
      | .error r => do
        .report .error
          ("Failed to collect metrics from '" ++ c.name ++ "': " ++ r.failure.message)
        return (← collectFrom readings (position + 1) merged rest).cons c
      | .ok report =>
        let keys := duplicates merged report
        if keys.isEmpty then do
          .report .debug
            ("Collected " ++ toString report.length ++ " metrics from '" ++ c.name ++ "'")
          let collected := { c with last := readings.merged position }
          return (← collectFrom readings (position + 1) (merged ++ report) rest).cons collected
        else do
          let failure := duplicateFailure c.name keys
          .report .debug ("GridPulseError: " ++ failure.message)
          return ⟨.error ⟨failure, none⟩, c :: rest⟩
    else do
      return (← collectFrom readings (position + 1) merged rest).cons c

/-- Merges the reports of the collectors that are due. -/
def collectAll (readings : Readings) (r : Registry) : Query (Except Raised Report × Registry) := do
  let o ← collectFrom readings 0 [] r.collectors
  return (o.result, ⟨o.collectors⟩)

/-- A collection of typed metrics by one collector. -/
def collectMetrics (name : String) (due after : Float) (r : Registry) :
    Except RegistryError (Query (List Metric × Registry)) := do
  let c ← r.collector name
  return do
    let (metrics, collected) ← c.collect due after
    return (metrics, r.update name fun _ => collected)

end Registry

end MapMetrics
