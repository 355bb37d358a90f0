import MapMetrics.Cluster.Snapshot
import MapMetrics.Proofs.Cluster.Index

/-!
# What a snapshot describes

A snapshot that can be loaded lists maps, each with its counters, and other objects, and the cluster
of the snapshot is what comes of registering the maps and then the objects, one after another. Of
several maps of one name the last one counts, and of several objects of one name the last one, which
also counts before any map of that name: its service is then the service of the map. Where all
names and services are texts, loading comes to nothing that clients could not come to by operations.
-/

namespace MapMetrics.Snapshot

/-- What a snapshot lists. -/
structure Contents where
  /-- The maps with their counters. -/
  maps : List (MapConfig × MapStats)
  /-- The other objects with their services. -/
  objects : List (Value × Value)

/-- What an error from below makes of the loading. -/
def malformedBy (m : Mishap) : Raised :=
  ⟨.misconfigured ("Malformed cluster snapshot: " ++ m.message), some (.mishap m)⟩

/-- The record that a value holds. -/
def recordIn (α : Type) [Model α] (v : Value) : Except Mishap α :=
  match (Model.ofValue v : Outcome α) with
  | .valid a => .ok a
  | .invalid first rest => .error (.invalid (Model.title α) first rest)

/-- The map of an entry. -/
def mapIn (entry : Value) : Except Mishap (MapConfig × MapStats) := do
  let config ← recordIn MapConfig (← part "config" entry)
  let stats ← recordIn MapStats (statsPart entry)
  return (config, stats)

/-- The object of an entry, whose name must be a key. -/
def objectIn (entry : Value) : Except Mishap (Value × Value) := do
  let name ← part "name" entry
  let service ← part "service_name" entry
  if name.isKey then return (name, service)
  else throw (.kind ("unhashable type: '" ++ name.typeName ++ "'"))

/-- What the sections of a snapshot list, or the first error in their order. -/
def contentsIn (entries : List (Value × Value)) : Except Mishap Contents := do
  let maps ← (← sectionElements "maps" entries).mapM mapIn
  let objects ← (← sectionElements "objects" entries).mapM objectIn
  return ⟨maps, objects⟩

/-- What a document lists, if it is a snapshot. -/
def contents (document : Value) : Except Raised Contents :=
  match document.opened with
  | .mapping entries => (contentsIn entries).mapError malformedBy
  | _ => .error ⟨.misconfigured "Cluster snapshot must be a mapping", none⟩

namespace Contents

/-- A cluster with an object put among its objects. -/
def withObject (c : Cluster) (e : Value × Value) : Cluster :=
  { c with objects := Value.insert e.1 e.2 c.objects }

/-- The cluster that comes of registering the maps and then the objects. -/
def cluster (service : String) (k : Contents) : Cluster :=
  k.objects.foldl withObject
    (k.maps.foldl (fun c m => c.addMap m.1 m.2) { mapService := service })

end Contents

/-- The configuration of the last map that is listed under a name. -/
def Contents.lastMap? (k : Contents) (name : String) : Option MapConfig :=
  Table.get? (k.maps.map fun m => (m.1.name, m.1)).reverse name

/-- The service of the last other object that is listed under a name. -/
def Contents.lastService? (k : Contents) (name : String) : Option Value :=
  Value.field? name k.objects.reverse

/-! ## Loading -/

private theorem result_step {α : Type} (x : Except Mishap α) :
    (step x).result = x.mapError malformedBy := by
  cases x <;> rfl

private theorem result_record {α : Type} [Model α] (v : Value) :
    (record α v).result = (recordIn α v).mapError malformedBy := by
  rw [record, recordIn]
  cases (Model.ofValue v : Outcome α) <;> rfl

private theorem result_addMap (c : Cluster) (entry : Value) :
    (addMap c entry).result =
      ((mapIn entry).map fun m => c.addMap m.1 m.2).mapError malformedBy := by
  simp only [addMap, Journal.result_bind, result_step, result_record, mapIn]
  cases part "config" entry with
  | error m => rfl
  | ok config =>
    cases hc : recordIn MapConfig config with
    | error m => simp [Except.bind, bind, Except.map, hc]
    | ok config =>
      cases recordIn MapStats (statsPart entry) <;>
        simp [Except.bind, bind, Except.map, hc, Journal.note, pure, Except.pure]

private theorem result_addObject (c : Cluster) (entry : Value) :
    (addObject c entry).result =
      ((objectIn entry).map (Contents.withObject c)).mapError malformedBy := by
  simp only [addObject, Journal.result_bind, result_step, objectIn]
  cases part "name" entry with
  | error m => rfl
  | ok name =>
    cases part "service_name" entry with
    | error m => rfl
    | ok service =>
      by_cases hk : name.isKey <;>
        simp [Except.bind, bind, Except.map, Cluster.addObject, hk, Journal.note,
          pure, Except.pure, throw, throwThe, MonadExceptOf.throw, Contents.withObject]

/-- Loading entries one after another is reading all of them and then adding what they hold. -/
private theorem result_foldlM {α : Type} {load : Cluster → Value → Journal Cluster}
    {read : Value → Except Mishap α} {add : Cluster → α → Cluster}
    (h : ∀ c entry, (load c entry).result = ((read entry).map (add c)).mapError malformedBy)
    (entries : List Value) (c : Cluster) :
    (entries.foldlM load c).result =
      ((entries.mapM read).map fun found => found.foldl add c).mapError malformedBy := by
  induction entries generalizing c with
  | nil => rfl
  | cons entry rest ih =>
    rw [List.foldlM_cons, Journal.result_bind, h, List.mapM_cons]
    cases read entry with
    | error m => rfl
    | ok found =>
      change (rest.foldlM load (add c found)).result = _
      rw [ih]
      cases rest.mapM read <;> rfl

/-- A document is loaded as the cluster of what it lists, and refused otherwise. -/
theorem result_toCluster (document : Value) (service : String) :
    (toCluster document service).result = (contents document).map (·.cluster service) := by
  rw [toCluster, contents]
  cases document.opened with
  | mapping entries =>
    simp only [Journal.result_bind, result_step, result_foldlM result_addMap,
      result_foldlM result_addObject, contentsIn]
    cases sectionElements "maps" entries with
    | error m => rfl
    | ok maps =>
      cases hm : maps.mapM mapIn with
      | error m => simp [Except.bind, bind, Except.map, hm, Journal.note]
      | ok found =>
        cases sectionElements "objects" entries with
        | error m => simp [Except.bind, bind, Except.map, hm, Journal.note]
        | ok objects =>
          cases ho : objects.mapM objectIn <;>
            simp [Except.bind, bind, Except.map, hm, ho, Journal.note, pure,
              Except.pure, Contents.cluster]
  | _ => rfl

/-- A snapshot that is loaded is loaded as the cluster of what it lists. -/
theorem eq_cluster_of_loaded {document : Value} {service : String} {c : Cluster}
    (h : (toCluster document service).result = .ok c) :
    ∃ k, contents document = .ok k ∧ c = k.cluster service := by
  rw [result_toCluster] at h
  cases hk : contents document with
  | error r => rw [hk] at h; cases h
  | ok k => rw [hk] at h; exact ⟨k, rfl, (Except.ok.inj h).symm⟩

/-! ## The loaded cluster -/

namespace Contents

/-- A loaded cluster is sound. -/
theorem sound_cluster (service : String) (k : Contents) : (k.cluster service).Sound := by
  refine List.foldlRecOn k.objects _ ?_ fun c h e _ => h.congr rfl rfl
  exact List.foldlRecOn k.maps _ (Cluster.sound_empty service) fun c h m _ => h.addMap m.1 m.2

/-- No failure is injected into a loaded cluster. -/
theorem unfailing_cluster (service : String) (k : Contents) : (k.cluster service).Unfailing := by
  refine List.foldlRecOn k.objects _ ?_ fun c h e _ => ⟨h.stats, h.enumeration⟩
  refine List.foldlRecOn k.maps _ ⟨rfl, rfl⟩ fun c h m _ => ⟨?_, h.enumeration⟩
  change c.statsFailures.erase m.1.name = []
  rw [h.stats]
  rfl

/-- Objects that are texts under texts are registered by operations. -/
private theorem exists_addObjects (objects : List (Value × Value)) (c : Cluster)
    (h : ∀ e ∈ objects, ∃ name service, e = (.text name, .text service)) :
    ∃ ops : List Operation, objects.foldl withObject c = ops.foldl Cluster.apply c := by
  induction objects generalizing c with
  | nil => exact ⟨[], rfl⟩
  | cons e rest ih =>
    obtain ⟨⟨name, service, rfl⟩, hrest⟩ := List.forall_mem_cons.mp h
    obtain ⟨ops, hops⟩ := ih (withObject c (.text name, .text service)) hrest
    exact ⟨.addObject name service :: ops, hops⟩

/-- A loaded cluster whose names and services are all texts is left by a history as well. -/
theorem exists_after_eq_cluster (service : String) (k : Contents)
    (h : ∀ e ∈ k.objects, ∃ name service, e = (.text name, .text service)) :
    ∃ history, k.cluster service = Cluster.after service history := by
  obtain ⟨ops, hops⟩ := exists_addObjects k.objects
    (k.maps.foldl (fun c m => c.addMap m.1 m.2) { mapService := service }) h
  refine ⟨k.maps.map (fun m => .addMap m.1 (some m.2)) ++ ops, ?_⟩
  rw [cluster, hops, Cluster.after, List.foldl_append, List.foldl_map]
  rfl

/-- Registering maps puts their configurations and their service under their names. -/
private theorem register_maps (maps : List (MapConfig × MapStats)) {c : Cluster}
    {t : Table Value} (h : c.Directory t) :
    (maps.foldl (fun c m => c.addMap m.1 m.2) c).configs =
        c.configs.putAll (maps.map fun m => (m.1.name, m.1)) ∧
      (maps.foldl (fun c m => c.addMap m.1 m.2) c).Directory
        (t.putAll (maps.map fun m => (m.1.name, .text c.mapService))) := by
  induction maps generalizing c t with
  | nil => exact ⟨rfl, h⟩
  | cons m rest ih => exact ih (h.addMap m.1 m.2)

/-- Registering other objects puts their services under their names, and keeps configurations. -/
private theorem register_objects (objects : Table Value) {c : Cluster} {t : Table Value}
    (h : c.Directory t) :
    (objects.listed.foldl withObject c).configs = c.configs ∧
      (objects.listed.foldl withObject c).Directory (t.putAll objects) := by
  induction objects generalizing c t with
  | nil => exact ⟨rfl, h⟩
  | cons e rest ih =>
    have hput : (withObject c (.text e.1, e.2)).Directory (t.put e.1 e.2) := by
      refine ⟨?_, Table.nodup_names_put h.distinct _ _⟩
      rw [← Table.insert_listed, ← h.objects]
      rfl
    exact ih hput

/-- Names that are texts make a table. -/
private theorem exists_listed {objects : List (Value × Value)}
    (h : ∀ e ∈ objects, ∃ name, e.1 = .text name) : ∃ t : Table Value, objects = t.listed := by
  induction objects with
  | nil => exact ⟨[], rfl⟩
  | cons e rest ih =>
    obtain ⟨⟨name, hn⟩, hrest⟩ := List.forall_mem_cons.mp h
    obtain ⟨t, ht⟩ := ih hrest
    refine ⟨(name, e.2) :: t, ?_⟩
    rw [ht, ← Prod.eta e, hn]
    rfl

/-- In a loaded cluster the last map of a name is configured under it. Where the other objects are
named by texts, all objects are a table: under a name stands the service of the last other object
of that name, and if there is none, that of its map. -/
theorem directory_cluster (service : String) (k : Contents)
    (h : ∀ e ∈ k.objects, ∃ name, e.1 = .text name) :
    (∀ name, (k.cluster service).configs.get? name = k.lastMap? name) ∧
      ∃ t, (k.cluster service).Directory t ∧ ∀ name, t.get? name =
        (k.lastService? name).or ((k.lastMap? name).map fun _ => .text service) := by
  obtain ⟨objects, ho⟩ := exists_listed h
  obtain ⟨hconfigs, hmaps⟩ := register_maps k.maps (Cluster.directory_empty service)
  obtain ⟨hkept, hall⟩ := register_objects objects hmaps
  rw [← ho] at hkept hall
  refine ⟨fun name => ?_, _, hall, fun name => ?_⟩
  · rw [cluster, hkept, hconfigs, Table.get?_putAll, lastMap?]
    exact Option.or_none
  · have hservices : (k.maps.map fun m => (m.1.name, Value.text service)).reverse =
        (k.maps.map fun m => (m.1.name, m.1)).reverse.map fun e => (e.1, .text service) := by
      rw [← List.map_reverse, ← List.map_reverse, List.map_map]
      rfl
    have hlast : k.lastService? name = Table.get? objects.reverse name := by
      rw [lastService?, ho, ← Table.field?_listed, Table.listed, Table.listed, List.map_reverse]
    rw [Table.get?_putAll, Table.get?_putAll, hlast, lastMap?]
    change Option.or _ (Option.or (Table.get? (k.maps.map fun m =>
      (m.1.name, Value.text service)).reverse name) none) = _
    rw [hservices, Table.get?_map _ fun _ => Value.text service, Option.or_none]

end Contents

end MapMetrics.Snapshot

namespace MapMetrics.Cluster

/-! ## Reachable clusters -/

/-- What clients can come to: an empty cluster, or that of a document in which all names and
services of objects are texts, and then whatever they do to it. -/
inductive Reachable : Cluster → Prop where
  /-- An empty cluster. -/
  | empty (service : String) : Reachable { mapService := service }
  /-- A loaded cluster. -/
  | loaded {document : Value} {service : String} {k : Snapshot.Contents} {c : Cluster}
      (result : (Snapshot.toCluster document service).result = .ok c)
      (listed : Snapshot.contents document = .ok k)
      (texts : ∀ e ∈ k.objects, ∃ name service, e = (.text name, .text service)) : Reachable c
  /-- The cluster after an operation, which may be refused. -/
  | apply {c : Cluster} (h : Reachable c) (op : Operation) : Reachable (c.apply op)

/-- Clients come to exactly what a history leaves of an empty cluster. -/
theorem reachable_iff {c : Cluster} :
    c.Reachable ↔ ∃ service history, c = after service history := by
  constructor
  · intro h
    induction h with
    | empty service => exact ⟨service, [], rfl⟩
    | @loaded document service k c result listed texts =>
      obtain ⟨k', hk', rfl⟩ := Snapshot.eq_cluster_of_loaded result
      obtain rfl := Except.ok.inj (hk'.symm.trans listed)
      exact ⟨service, k'.exists_after_eq_cluster service texts⟩
    | apply h op ih =>
      obtain ⟨service, history, rfl⟩ := ih
      have hstep : after service (history ++ [op]) = (after service history).apply op :=
        List.foldl_append
      exact ⟨service, history ++ [op], hstep.symm⟩
  · rintro ⟨service, history, rfl⟩
    exact List.foldlRecOn history Cluster.apply (.empty service) fun _ h op _ => h.apply op

end MapMetrics.Cluster
