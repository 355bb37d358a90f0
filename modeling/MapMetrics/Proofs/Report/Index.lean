import MapMetrics.Proofs.Query.Outcome
import MapMetrics.Report.Index

/-!
# What an index holds

Against fixed answers an index is built without state: every name of the service gives its
configuration or nothing, and the first lookup that fails for another reason than that the map has
gone ends the building.
-/

namespace MapMetrics

/-- A result, unless a failure stands in its way. -/
def Raised.unless {α : Type} (failure : Option Failure) (x : α) : Except Raised α :=
  match failure with
  | some f => .error ⟨f, none⟩
  | none => .ok x

@[simp] theorem Raised.unless_none {α : Type} (x : α) : Raised.unless none x = .ok x := rfl

@[simp] theorem Raised.unless_some {α : Type} (f : Failure) (x : α) :
    Raised.unless (some f) x = .error ⟨f, none⟩ := rfl

/-- The names of the objects of a service. -/
def ObjectInfo.namesUnder (service : String) (infos : List ObjectInfo) : List String :=
  (infos.filter fun info => info.serviceName == service).map (·.name)

theorem ObjectInfo.mem_namesUnder_iff {service name : String} {infos : List ObjectInfo} :
    name ∈ ObjectInfo.namesUnder service infos ↔ ⟨name, service⟩ ∈ infos := by
  simp only [ObjectInfo.namesUnder, List.mem_map, List.mem_filter, beq_iff_eq]
  constructor
  · rintro ⟨info, ⟨hi, hs⟩, hn⟩
    rw [← hn, ← hs]
    exact hi
  · intro h
    exact ⟨⟨name, service⟩, ⟨h, rfl⟩, rfl⟩

namespace Answers

/-- The configuration that a name brings into an index. -/
def indexed? (a : Answers) (name : String) : Option MapConfig :=
  match a.config name with
  | .ok found => found
  | .error _ => none

/-- The failure of a lookup that ends the building of an index: any but that the map has gone. -/
def lookupFailure? (a : Answers) (name : String) : Option Failure :=
  match a.config name with
  | .ok _ => none
  | .error (.notFound _ _) => none
  | .error f => some f

/-- One lookup gives its configuration or nothing, unless it fails for another reason than that the
map has gone. -/
theorem result_liveConfig (a : Answers) (name : String) :
    (liveConfig name).result a = Raised.unless (a.lookupFailure? name) (a.indexed? name) := by
  rw [liveConfig, Query.result_bind, Query.result_lookupConfig, lookupFailure?, indexed?]
  cases a.config name with
  | ok found => cases found <;> simp [Except.bind]
  | error f => cases f <;> simp [Except.bind]

/-- Lookups one after another give the configurations that are there, unless one of them fails. -/
theorem result_liveConfigs (a : Answers) (names : List String) :
    (liveConfigs names).result a =
      Raised.unless (names.findSome? a.lookupFailure?) (names.filterMap a.indexed?) := by
  induction names with
  | nil => rfl
  | cons name rest ih =>
    rw [liveConfigs, Query.result_bind, result_liveConfig]
    cases hf : a.lookupFailure? name with
    | some f => simp [Except.bind, hf]
    | none =>
      simp only [Raised.unless_none, Except.bind, Query.result_bind, ih]
      cases hr : rest.findSome? a.lookupFailure? with
      | some f => simp [hf, hr]
      | none => cases hi : a.indexed? name <;> simp [hf, hr, hi]

/-- The index of a service holds what its names bring in. -/
theorem result_configIndex (a : Answers) (service : String) :
    (configIndex service).result a =
      (a.objects.mapError fun f => ⟨f, none⟩).bind fun infos =>
        Raised.unless ((ObjectInfo.namesUnder service infos).findSome? a.lookupFailure?)
          ((ObjectInfo.namesUnder service infos).filterMap a.indexed?) := by
  rw [configIndex, Query.result_bind, Query.result_allObjects]
  congr 1
  funext infos
  rw [Query.result_bind]
  change ((liveConfigs (ObjectInfo.namesUnder service infos)).result a).bind _ = _
  rw [result_liveConfigs]
  cases (ObjectInfo.namesUnder service infos).findSome? a.lookupFailure? <;> rfl

end Answers

end MapMetrics
