import MapMetrics.Validation.Model

/-!
# Metrics

A metric is a named sample: a scalar with a unit, labels, a description and the time at which it was
taken. A scalar keeps the kind in which it is given, and scalars that are equal as numbers are
equal. Records of metrics ignore fields that they do not know.
-/

namespace MapMetrics

/-- The value of a sample. -/
inductive Scalar where
  /-- A truth value. -/
  | bool (b : Bool)
  /-- An integer. -/
  | int (n : Int)
  /-- A real number. -/
  | float (x : Float)
  /-- A text. -/
  | text (s : String)

/-- A scalar as a value. -/
def Scalar.toValue : Scalar → Value
  | bool b => .bool b
  | int n => .int n
  | float x => .float x
  | text s => .text s

/-- Equal numbers are equal, of whatever kind; the number that is none is not equal to itself. -/
def Scalar.same (a b : Scalar) : Bool :=
  match a, b with
  | text s, text t => s == t
  | float x, float y => x == y
  | a, b => a.toValue.sameKey b.toValue

instance : BEq Scalar where
  beq := Scalar.same

instance : Hashable Scalar where
  hash
    | .text s => hash s
    | s =>
      match s.toValue.number? with
      | some (.inl n) => hash n
      | some (.inr x) => hash x.toBits
      | none => 0

/-- The kind of a metric. -/
inductive MetricType where
  /-- A value at a time. -/
  | gauge
  deriving DecidableEq, Repr, Hashable

instance : Named MetricType where
  members := [.gauge]
  name | .gauge => "gauge"

/-- The unit of a metric. -/
inductive MetricUnit where
  /-- A number of things. -/
  | count
  /-- Milliseconds. -/
  | milliseconds
  deriving DecidableEq, Repr, Hashable

instance : Named MetricUnit where
  members := [.count, .milliseconds]
  name
    | .count => "count"
    | .milliseconds => "milliseconds"

/-- A label of a metric. -/
structure MetricLabel where
  /-- Name. -/
  name : String
  /-- Value. -/
  value : String
  deriving DecidableEq, Repr, Hashable

/-- The wrapped value of a metric. -/
structure MetricValue where
  /-- The scalar. -/
  value : Scalar
  deriving BEq, Hashable

/-- A sample. -/
structure Metric where
  /-- Name. -/
  name : String
  /-- Value. -/
  value : MetricValue
  /-- Kind. -/
  type : MetricType
  /-- Unit, if it has one. -/
  unit : Option MetricUnit := none
  /-- Labels. -/
  labels : List MetricLabel := []
  /-- Description. -/
  description : String := ""
  /-- Seconds on the clock. -/
  timestamp : Float
  deriving BEq

open MapMetrics.Field Model

/-- A scalar; what is none is complained of once for every kind. -/
def Scalar.ofValue (v : Value) : Outcome Scalar :=
  match v with
  | .bool b => .valid (.bool b)
  | .int n => .valid (.int n)
  | .float x => .valid (.float x)
  | .text s => .valid (.text s)
  | _ =>
    let problem (kind : String) (c : Complaint) : Problem := ⟨[.field kind], c, v⟩
    .invalid (problem "int" .notInt)
      [problem "float" .notReal, problem "str" .notText, problem "bool" .notBool]

instance : Model MetricLabel where
  title := "MetricLabel"
  ofValue := record "MetricLabel" fun entries =>
    MetricLabel.mk
      <$> required entries "name" text
      <*> required entries "value" text
  toValue l := fields [("name", .text l.name), ("value", .text l.value)]

instance : Model MetricValue where
  title := "MetricValue"
  ofValue := record "MetricValue" fun entries =>
    MetricValue.mk <$> required entries "value" Scalar.ofValue
  toValue v := fields [("value", v.value.toValue)]

namespace Metric

/-- The name that problems use. -/
def title : String := "Metric"

/-- The metric that a value holds; without a time it is taken now. -/
def ofValue (now : Float) : Value → Outcome Metric :=
  record title fun entries =>
    Metric.mk
      <$> required entries "name" text
      <*> required entries "value" Model.ofValue
      <*> required entries "type" choice
      <*> optional entries "unit" none (perhaps choice)
      <*> optional entries "labels" [] (list Model.ofValue)
      <*> optional entries "description" "" text
      <*> optional entries "timestamp" now real

/-- The value that holds a metric. -/
def toValue (m : Metric) : Value :=
  fields [
    ("name", .text m.name),
    ("value", Model.toValue m.value),
    ("type", .text (Named.name m.type)),
    ("unit", (m.unit.map fun u => .text (Named.name u)).getD .null),
    ("labels", .list (m.labels.map Model.toValue)),
    ("description", .text m.description),
    ("timestamp", .float m.timestamp)]

end Metric

end MapMetrics
