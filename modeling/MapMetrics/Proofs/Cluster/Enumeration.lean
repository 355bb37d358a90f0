import MapMetrics.Cluster.Basic
import MapMetrics.Proofs.Table
import MapMetrics.Proofs.Traversal
import MapMetrics.Proofs.Validation.Field
import Mathlib.Data.List.Forall2

/-!
# Enumerating a cluster

A cluster can be enumerated when every listed name and every service is read as a text, and the
identities are then those texts, in the order of the objects. Where all names are texts to begin
with, the objects are a table of services: no name is enumerated twice, and a service is the one
that was put under the name last.
-/

namespace MapMetrics

private theorem ObjectInfo.ofValue_fields (name service : Value) :
    (Model.ofValue (Model.fields [("name", name), ("service_name", service)]) :
      Outcome ObjectInfo) =
      (ObjectInfo.mk <$> (Field.text name).within (.field "name")
        <*> (Field.text service).within (.field "service_name")) <* Outcome.valid () := rfl

namespace Cluster

/-- An object has an identity exactly when its name and its service are read as texts. -/
theorem objectInfo_eq_ok_iff {name service : Value} {info : ObjectInfo} :
    objectInfo name service = .ok info ↔
      Field.text name = .valid info.name ∧ Field.text service = .valid info.serviceName := by
  rw [objectInfo, ObjectInfo.ofValue_fields]
  obtain ⟨n, s⟩ := info
  cases Field.text name <;> cases Field.text service <;>
    simp [SeqLeft.seqLeft, Seq.seq, Outcome.both, Outcome.map, Outcome.within, Functor.map]

/-- The identities of objects, one for each. -/
def Identify (objects : List (Value × Value)) (infos : List ObjectInfo) : Prop :=
  List.Forall₂ (fun e info => Field.text e.1 = .valid info.name ∧
    Field.text e.2 = .valid info.serviceName) objects infos

private theorem mapM_objectInfo_eq_ok_iff {objects : List (Value × Value)}
    {infos : List ObjectInfo} :
    objects.mapM (fun e => objectInfo e.1 e.2) = .ok infos ↔ Identify objects infos := by
  rw [mapM_eq_ok_iff]
  simp only [objectInfo_eq_ok_iff]
  rfl

/-- Enumeration gives the identities of all objects, and fails otherwise. -/
theorem distributedObjects_eq_ok_iff {c : Cluster} {infos : List ObjectInfo} :
    c.distributedObjects = .ok infos ↔
      c.enumerationFailure = none ∧ Identify c.objects infos := by
  rw [distributedObjects]
  cases c.enumerationFailure with
  | some f => simp
  | none =>
    simp only [true_and]
    exact mapM_objectInfo_eq_ok_iff

/-- A cluster can be enumerated exactly when nothing keeps it from that and all names and services
are read as texts. -/
theorem exists_distributedObjects_iff {c : Cluster} :
    (∃ infos, c.distributedObjects = .ok infos) ↔
      c.enumerationFailure = none ∧ ∀ e ∈ c.objects,
        (∃ name, Field.text e.1 = .valid name) ∧ ∃ service, Field.text e.2 = .valid service := by
  simp only [distributedObjects_eq_ok_iff, exists_and_left]
  refine and_congr_right fun _ => ?_
  generalize c.objects = objects
  induction objects with
  | nil => exact iff_of_true ⟨[], .nil⟩ (by simp)
  | cons e rest ih =>
    constructor
    · rintro ⟨infos, h⟩
      cases h with
      | cons he hr =>
        exact List.forall_mem_cons.mpr ⟨⟨⟨_, he.1⟩, ⟨_, he.2⟩⟩, ih.mp ⟨_, hr⟩⟩
    · intro h
      obtain ⟨⟨⟨name, hn⟩, ⟨service, hs⟩⟩, hrest⟩ := List.forall_mem_cons.mp h
      obtain ⟨infos, hi⟩ := ih.mpr hrest
      exact ⟨⟨name, service⟩ :: infos, .cons ⟨hn, hs⟩ hi⟩

/-- Names that are texts are enumerated as they are, in their order. -/
theorem Identify.names {t : Table Value} {infos : List ObjectInfo}
    (h : Identify t.listed infos) : infos.map (·.name) = t.names := by
  induction t generalizing infos with
  | nil => cases h; rfl
  | cons e rest ih =>
    cases h with
    | cons he hr =>
      rw [Field.text_text] at he
      rw [List.map_cons, ih hr, ← Outcome.valid.inj he.1]
      rfl

/-- An object of a table is enumerated under the text that its service is read as. -/
theorem Identify.mem_iff {t : Table Value} {infos : List ObjectInfo}
    (h : Identify t.listed infos) {name service : String} :
    ⟨name, service⟩ ∈ infos ↔ ∃ v, (name, v) ∈ t ∧ Field.text v = .valid service := by
  induction t generalizing infos with
  | nil => cases h; simp
  | cons e rest ih =>
    cases h with
    | @cons _ info _ others he hr =>
      obtain ⟨n, v⟩ := e
      obtain ⟨hn, hv⟩ := he
      obtain ⟨m, s⟩ := info
      cases Outcome.valid.inj ((Field.text_text n).symm.trans hn)
      rw [List.mem_cons, ih hr]
      constructor
      · rintro (heq | ⟨w, hw, hs⟩)
        · cases heq
          exact ⟨v, List.mem_cons_self, hv⟩
        · exact ⟨w, List.mem_cons_of_mem _ hw, hs⟩
      · rintro ⟨w, hw, hs⟩
        rcases List.mem_cons.mp hw with heq | hw
        · cases heq
          have he : service = s := Outcome.valid.inj (hs.symm.trans hv)
          exact Or.inl (congrArg (ObjectInfo.mk m) he)
        · exact Or.inr ⟨w, hw, hs⟩

end Cluster

end MapMetrics
