import MapMetrics.Proofs.Cluster.Enumeration

/-!
# Histories of clusters

What clients do to a cluster is a sequence of operations, some of which may be refused. Two things
hold after every history, however often names are registered again, shadowed by other objects,
emptied of their configurations or removed: a configuration stands under its own name and has
counters beside it, and the objects are a table in which no name stands twice.
-/

namespace MapMetrics

/-- What a client does to a cluster. -/
inductive Operation where
  /-- Registers a map; without counters they are all zero. -/
  | addMap (config : MapConfig) (stats : Option MapStats)
  /-- Registers an object that is only enumerated. -/
  | addObject (name service : String)
  /-- Removes what there is under a name. -/
  | remove (name : String)
  /-- Drops the configuration of a map. -/
  | forgetConfig (name : String)
  /-- Replaces the counters of a map. -/
  | updateStats (name : String) (stats : MapStats)
  /-- Lets every read of the counters of a map fail. -/
  | failStats (name : String) (failure : Option Failure)
  /-- Lets enumeration fail, or succeed again. -/
  | failEnumeration (failure : Option Failure)

/-- What comes of an operation: the changed cluster, or the failure that refuses it. -/
def Operation.perform (c : Cluster) : Operation → Except Failure Cluster
  | addMap config stats => .ok (c.addMap config (stats.getD {}))
  | addObject name service => (c.addObject (.text name) (.text service)).mapError .mishap
  | remove name => .ok (c.remove name)
  | forgetConfig name => .ok (c.forgetConfig name)
  | updateStats name stats => c.updateStats name stats
  | failStats name failure => .ok (c.failStats name failure)
  | failEnumeration failure => .ok (c.failEnumeration failure)

namespace Cluster

/-- The cluster after an operation; one that is refused changes nothing. -/
def apply (c : Cluster) (op : Operation) : Cluster :=
  match op.perform c with
  | .ok changed => changed
  | .error _ => c

/-- An empty cluster after a history of operations. -/
def after (service : String) (history : List Operation) : Cluster :=
  history.foldl apply { mapService := service }

/-- What an empty cluster has and every operation keeps that is not refused, a cluster has after
every history. -/
theorem after_induction {P : Cluster → Prop} {service : String}
    (hempty : P { mapService := service })
    (hstep : ∀ {c changed : Cluster} {op : Operation}, P c → op.perform c = .ok changed → P changed)
    (history : List Operation) : P (after service history) := by
  refine List.foldlRecOn history _ hempty fun c h op _ => ?_
  rw [apply]
  cases hc : op.perform c with
  | ok changed => exact hstep h hc
  | error f => exact h

/-! ## Configurations and counters -/

/-- Configurations stand under their own names, with counters beside them. -/
structure Sound (c : Cluster) : Prop where
  /-- A configuration stands under its own name. -/
  named : ∀ {name config}, c.configs.get? name = some config → config.name = name
  /-- A map with a configuration has counters. -/
  counted : ∀ {name config}, c.configs.get? name = some config →
    ∃ stats, c.stats.get? name = some stats

theorem sound_empty (service : String) : Sound { mapService := service } := by
  constructor
  · intro name config h
    cases h
  · intro name config h
    cases h

theorem Sound.addMap {c : Cluster} (h : c.Sound) (config : MapConfig) (stats : MapStats) :
    (c.addMap config stats).Sound := by
  constructor
  · intro name found hf
    change (c.configs.put config.name config).get? name = _ at hf
    rw [Table.get?_put] at hf
    by_cases he : name = config.name
    · rw [if_pos he] at hf
      rw [← Option.some.inj hf, he]
    · rw [if_neg he] at hf
      exact h.named hf
  · intro name found hf
    change (c.configs.put config.name config).get? name = _ at hf
    change ∃ _, (c.stats.put config.name stats).get? name = _
    rw [Table.get?_put] at hf ⊢
    by_cases he : name = config.name
    · exact ⟨stats, if_pos he⟩
    · rw [if_neg he] at hf ⊢
      exact h.counted hf

/-- Nothing but the configurations and the counters decides about soundness. -/
theorem Sound.congr {c changed : Cluster} (h : c.Sound) (hconfigs : changed.configs = c.configs)
    (hstats : changed.stats = c.stats) : changed.Sound :=
  ⟨fun hf => h.named (hconfigs ▸ hf), fun hf => hstats ▸ h.counted (hconfigs ▸ hf)⟩

theorem Sound.addObject {c changed : Cluster} (h : c.Sound) {name service : Value}
    (hc : c.addObject name service = .ok changed) : changed.Sound := by
  unfold Cluster.addObject at hc
  split at hc
  · cases hc
    exact h.congr rfl rfl
  · cases hc

theorem Sound.remove {c : Cluster} (h : c.Sound) (name : String) : (c.remove name).Sound := by
  constructor
  · intro other found hf
    change (c.configs.erase name).get? other = _ at hf
    rw [Table.get?_erase] at hf
    exact h.named (Option.ite_none_left_eq_some.mp hf).2
  · intro other found hf
    change (c.configs.erase name).get? other = _ at hf
    change ∃ _, (c.stats.erase name).get? other = _
    rw [Table.get?_erase] at hf ⊢
    obtain ⟨hne, hf⟩ := Option.ite_none_left_eq_some.mp hf
    rw [if_neg hne]
    exact h.counted hf

theorem Sound.forgetConfig {c : Cluster} (h : c.Sound) (name : String) :
    (c.forgetConfig name).Sound := by
  have hkept {other : String} {found : MapConfig}
      (hf : (c.configs.erase name).get? other = some found) :
      c.configs.get? other = some found := by
    rw [Table.get?_erase] at hf
    exact (Option.ite_none_left_eq_some.mp hf).2
  exact ⟨fun hf => h.named (hkept hf), fun hf => h.counted (hkept hf)⟩

theorem Sound.updateStats {c changed : Cluster} (h : c.Sound) {name : String} {stats : MapStats}
    (hc : c.updateStats name stats = .ok changed) : changed.Sound := by
  unfold Cluster.updateStats at hc
  split at hc
  · cases hc
  · cases hc
    refine ⟨h.named, fun {other found} hf => ?_⟩
    change ∃ _, (c.stats.put name stats).get? other = _
    rw [Table.get?_put]
    by_cases he : other = name
    · exact ⟨stats, if_pos he⟩
    · rw [if_neg he]
      exact h.counted hf

theorem Sound.perform {c changed : Cluster} (h : c.Sound) {op : Operation}
    (hc : op.perform c = .ok changed) : changed.Sound := by
  cases op with
  | addMap config stats => cases hc; exact h.addMap config _
  | addObject name service =>
    cases ha : c.addObject (.text name) (.text service) with
    | error m =>
      rw [Operation.perform, ha] at hc
      cases hc
    | ok added =>
      rw [Operation.perform, ha] at hc
      cases hc
      exact h.addObject ha
  | remove name => cases hc; exact h.remove name
  | forgetConfig name => cases hc; exact h.forgetConfig name
  | updateStats name stats => exact h.updateStats hc
  | failStats name failure => cases hc; exact h.congr rfl rfl
  | failEnumeration failure => cases hc; exact h.congr rfl rfl

/-- Every history leaves a sound cluster. -/
theorem sound_after (service : String) (history : List Operation) :
    (after service history).Sound :=
  after_induction (sound_empty service) (fun h hc => h.perform hc) history

/-- No failure is injected. -/
structure Unfailing (c : Cluster) : Prop where
  /-- Counters can be read. -/
  stats : c.statsFailures = []
  /-- The objects can be enumerated. -/
  enumeration : c.enumerationFailure = none

/-! ## Objects -/

/-- The objects are a table of services, in which no name stands twice. -/
structure Directory (c : Cluster) (t : Table Value) : Prop where
  /-- The objects are those of the table. -/
  objects : c.objects = t.listed
  /-- No name stands twice. -/
  distinct : t.names.Nodup

theorem directory_empty (service : String) : Directory { mapService := service } [] :=
  ⟨rfl, List.nodup_nil⟩

/-- A map stands among the objects under the service of maps. -/
theorem Directory.addMap {c : Cluster} {t : Table Value} (h : c.Directory t) (config : MapConfig)
    (stats : MapStats) :
    (c.addMap config stats).Directory (t.put config.name (.text c.mapService)) := by
  refine ⟨?_, Table.nodup_names_put h.distinct _ _⟩
  rw [← Table.insert_listed, ← h.objects]
  rfl

/-- An object that is named by a text stands under its service from then on. -/
theorem Directory.addObject {c changed : Cluster} {t : Table Value} (h : c.Directory t)
    {name : String} {service : Value} (hc : c.addObject (.text name) service = .ok changed) :
    changed.Directory (t.put name service) := by
  cases hc
  refine ⟨?_, Table.nodup_names_put h.distinct _ _⟩
  rw [← Table.insert_listed, ← h.objects]

theorem Directory.remove {c : Cluster} {t : Table Value} (h : c.Directory t) (name : String) :
    (c.remove name).Directory (t.erase name) := by
  refine ⟨?_, Table.nodup_names_erase h.distinct name⟩
  rw [← Table.filter_listed, ← h.objects]
  rfl

theorem Directory.perform {c changed : Cluster} {t : Table Value} (h : c.Directory t)
    {op : Operation} (hc : op.perform c = .ok changed) : ∃ t, changed.Directory t := by
  cases op with
  | addMap config stats => cases hc; exact ⟨_, h.addMap config _⟩
  | addObject name service =>
    have hadded : c.addObject (.text name) (.text service) = .ok changed := by cases hc; rfl
    exact ⟨_, h.addObject hadded⟩
  | remove name => cases hc; exact ⟨_, h.remove name⟩
  | updateStats name stats =>
    simp only [Operation.perform, Cluster.updateStats] at hc
    split at hc
    · cases hc
    · cases hc
      exact ⟨t, h.objects, h.distinct⟩
  | forgetConfig name => cases hc; exact ⟨t, h.objects, h.distinct⟩
  | failStats name failure => cases hc; exact ⟨t, h.objects, h.distinct⟩
  | failEnumeration failure => cases hc; exact ⟨t, h.objects, h.distinct⟩

end Cluster

end MapMetrics
