import MapMetrics.Proofs.Cluster.Index

/-!
# What operations leave alone

An operation is about one name at most, and what a cluster holds under any other name stays as it
is, however many operations there are. Nor do failures come from nowhere: a read meets a failure
only when an operation has injected it. Clients give texts as services, so that after every history
the objects can be enumerated as long as no failure is injected into that.
-/

namespace MapMetrics

/-- The name that an operation is about. -/
def Operation.target? : Operation → Option String
  | addMap config _ => some config.name
  | addObject name _ => some name
  | remove name => some name
  | forgetConfig name => some name
  | updateStats name _ => some name
  | failStats name _ => some name
  | failEnumeration _ => none

/-- The failure that an operation injects. -/
def Operation.injected? : Operation → Option Failure
  | failStats name failure => some (failure.getD (Cluster.injectedFailure name))
  | failEnumeration failure => failure
  | _ => none

/-- The services of objects after an operation; maps come under a service of their own. -/
def Operation.relist (mapService : String) (services : Table String) : Operation → Table String
  | addMap config _ => services.put config.name mapService
  | addObject name service => services.put name service
  | remove name => services.erase name
  | _ => services

/-- Texts as values. -/
def Table.texts (t : Table String) : Table Value :=
  t.map fun e => (e.1, .text e.2)

namespace Table

theorem texts_put (t : Table String) (name s : String) :
    (t.put name s).texts = t.texts.put name (.text s) := by
  induction t with
  | nil => rfl
  | cons e rest ih =>
    obtain ⟨n, v⟩ := e
    change texts (if (n == name) = true then _ else _) = if (n == name) = true then _ else _
    by_cases h : (n == name) = true
    · rw [if_pos h, if_pos h]
      rfl
    · rw [if_neg h, if_neg h]
      exact congrArg ((n, Value.text v) :: ·) ih

theorem texts_erase (t : Table String) (name : String) :
    (t.erase name).texts = t.texts.erase name := by
  rw [erase, texts, texts, erase, List.filter_map]
  rfl

theorem get?_texts (t : Table String) (name : String) :
    t.texts.get? name = (t.get? name).map Value.text :=
  get?_map t Value.text name

end Table

namespace Cluster

variable {c : Cluster}

/-- Counters are replaced, or nothing is changed. -/
theorem apply_updateStats (c : Cluster) (name : String) (stats : MapStats) :
    c.apply (.updateStats name stats) = c ∨
      c.apply (.updateStats name stats) = { c with stats := c.stats.put name stats } := by
  rw [apply, Operation.perform, updateStats]
  by_cases h : (c.configs.get? name).isNone = true
  · rw [if_pos h]
    exact .inl rfl
  · rw [if_neg h]
    exact .inr rfl

/-! ## Services -/

/-- An operation lists services anew. -/
theorem Directory.apply {services : Table String} (h : c.Directory services.texts)
    (op : Operation) : (c.apply op).Directory (op.relist c.mapService services).texts := by
  cases op with
  | addMap config stats =>
    rw [Operation.relist, Table.texts_put]
    exact h.addMap config _
  | addObject name service =>
    rw [Operation.relist, Table.texts_put]
    exact h.addObject rfl
  | remove name =>
    rw [Operation.relist, Table.texts_erase]
    exact h.remove name
  | updateStats name stats =>
    rcases apply_updateStats c name stats with hc | hc
    · rw [hc]
      exact h
    · rw [hc]
      exact ⟨h.objects, h.distinct⟩
  | forgetConfig name => exact ⟨h.objects, h.distinct⟩
  | failStats name failure => exact ⟨h.objects, h.distinct⟩
  | failEnumeration failure => exact ⟨h.objects, h.distinct⟩

/-- Operations leave a table of objects with texts as their services. -/
theorem Directory.foldl_apply {services : Table String} (h : c.Directory services.texts)
    (ops : List Operation) :
    ∃ services : Table String, (ops.foldl Cluster.apply c).Directory services.texts := by
  refine List.foldlRecOn (motive := fun c => ∃ services : Table String, c.Directory services.texts)
    ops Cluster.apply ⟨services, h⟩ ?_
  rintro c ⟨services, h⟩ op -
  exact ⟨_, h.apply op⟩

/-- Every history leaves a table of objects with texts as their services. -/
theorem services_after (service : String) (history : List Operation) :
    ∃ services : Table String, (after service history).Directory services.texts := by
  have hempty : Directory { mapService := service } (Table.texts []) := directory_empty service
  exact hempty.foldl_apply history

/-- Objects with texts as their services can be enumerated unless a failure is injected. -/
theorem Directory.exists_distributedObjects_iff {services : Table String}
    (h : c.Directory services.texts) :
    (∃ infos, c.distributedObjects = .ok infos) ↔ c.enumerationFailure = none := by
  rw [Cluster.exists_distributedObjects_iff, and_iff_left_iff_imp]
  intro _ e he
  rw [h.objects, Table.listed, Table.texts, List.map_map] at he
  obtain ⟨⟨name, s⟩, -, rfl⟩ := List.mem_map.mp he
  exact ⟨⟨name, Field.text_text name⟩, ⟨s, Field.text_text s⟩⟩

/-! ## Frames -/

/-- Two clusters hold the same under a name. -/
structure Alike (name : String) (c d : Cluster) : Prop where
  /-- The same service, if any. -/
  service : Value.field? name d.objects = Value.field? name c.objects
  /-- The same configuration, if any. -/
  config : d.configs.get? name = c.configs.get? name
  /-- The same counters, if any. -/
  stats : d.stats.get? name = c.stats.get? name
  /-- The same failure, if any. -/
  failure : d.statsFailures.get? name = c.statsFailures.get? name

theorem Alike.refl (name : String) (c : Cluster) : Alike name c c :=
  ⟨rfl, rfl, rfl, rfl⟩

theorem Alike.trans {name : String} {c d e : Cluster} (h : Alike name c d) (h' : Alike name d e) :
    Alike name c e :=
  ⟨h'.service.trans h.service, h'.config.trans h.config, h'.stats.trans h.stats,
    h'.failure.trans h.failure⟩

/-- Where the same is held under a name, its configuration is looked up alike. -/
theorem Alike.mapConfig {name : String} {c d : Cluster} (h : Alike name c d) :
    d.mapConfig name = c.mapConfig name := by
  rw [Cluster.mapConfig, Cluster.mapConfig, lists, lists, h.service, h.config]

/-- Where the same is held under a name, its configuration resolves to the same. -/
theorem Alike.resolved? {name : String} {c d : Cluster} (h : Alike name c d) :
    d.resolved? name = c.resolved? name := by
  rw [Cluster.resolved?, Cluster.resolved?, h.mapConfig]

/-- Where the same is held under a name, its counters are read alike. -/
theorem Alike.mapStats {name : String} {c d : Cluster} (h : Alike name c d) :
    d.mapStats name = c.mapStats name := by
  rw [Cluster.mapStats, Cluster.mapStats, h.failure, h.stats]

private theorem ne_of_some_ne {name other : String} (h : some other ≠ some name) :
    ¬ name = other :=
  fun he => h (congrArg some he.symm)

/-- Where the same is held under a name, it is enumerated under the same service. -/
theorem Alike.mem_namesOf_iff {name service : String} {c d : Cluster} (h : Alike name c d)
    {services others : Table String} (hc : c.Directory services.texts)
    (hd : d.Directory others.texts) (hce : c.enumerationFailure = none)
    (hde : d.enumerationFailure = none) :
    name ∈ d.namesOf service ↔ name ∈ c.namesOf service := by
  have hservice : others.texts.get? name = services.texts.get? name := by
    rw [← Table.field?_listed, ← Table.field?_listed, ← hd.objects, ← hc.objects, h.service]
  rw [hd.mem_namesOf_iff (hd.exists_distributedObjects_iff.mpr hde),
    hc.mem_namesOf_iff (hc.exists_distributedObjects_iff.mpr hce), hservice]

/-- An operation keeps the services of other names. -/
theorem Operation.get?_relist {op : Operation} {name : String} (h : op.target? ≠ some name)
    (mapService : String) (services : Table String) :
    (op.relist mapService services).get? name = services.get? name := by
  cases op with
  | addMap config stats => rw [Operation.relist, Table.get?_put, if_neg (ne_of_some_ne h)]
  | addObject other service => rw [Operation.relist, Table.get?_put, if_neg (ne_of_some_ne h)]
  | remove other => rw [Operation.relist, Table.get?_erase, if_neg (ne_of_some_ne h)]
  | _ => rfl

/-- An operation leaves alone what is held under other names. -/
theorem Directory.alike_apply {services : Table String} (h : c.Directory services.texts)
    {op : Operation} {name : String} (hop : op.target? ≠ some name) :
    Alike name c (c.apply op) := by
  have hservice : Value.field? name (c.apply op).objects = Value.field? name c.objects := by
    rw [(h.apply op).objects, h.objects, Table.field?_listed, Table.field?_listed,
      Table.get?_texts, Table.get?_texts, Operation.get?_relist hop]
  have hput {α : Type} (t : Table α) {other : String} (ho : some other ≠ some name) (v : α) :
      (t.put other v).get? name = t.get? name :=
    (Table.get?_put t other name v).trans (if_neg (ne_of_some_ne ho))
  have herase {α : Type} (t : Table α) {other : String} (ho : some other ≠ some name) :
      (t.erase other).get? name = t.get? name :=
    (Table.get?_erase t other name).trans (if_neg (ne_of_some_ne ho))
  cases op with
  | addMap config stats =>
    exact ⟨hservice, hput _ hop _, hput _ hop _, herase _ hop⟩
  | addObject other service => exact ⟨hservice, rfl, rfl, rfl⟩
  | remove other => exact ⟨hservice, herase _ hop, herase _ hop, herase _ hop⟩
  | forgetConfig other => exact ⟨hservice, herase _ hop, rfl, rfl⟩
  | updateStats other stats =>
    rcases apply_updateStats c other stats with hc | hc
    · rw [hc]
      exact .refl name c
    · rw [hc]
      exact ⟨rfl, rfl, hput _ hop _, rfl⟩
  | failStats other failure => exact ⟨hservice, rfl, rfl, hput _ hop _⟩
  | failEnumeration failure => exact ⟨hservice, rfl, rfl, rfl⟩

/-- Operations leave alone what is held under names that none of them is about. -/
theorem Directory.alike_foldl {services : Table String} (h : c.Directory services.texts)
    {ops : List Operation} {name : String} (hops : ∀ op ∈ ops, op.target? ≠ some name) :
    Alike name c (ops.foldl Cluster.apply c) := by
  induction ops generalizing c services with
  | nil => exact .refl name c
  | cons op rest ih =>
    obtain ⟨hop, hrest⟩ := List.forall_mem_cons.mp hops
    exact (h.alike_apply hop).trans (ih (h.apply op) hrest)

/-! ## Failures -/

/-- The failures that a cluster holds satisfy a property. -/
structure Failing (P : Failure → Prop) (c : Cluster) : Prop where
  /-- The failures of reads of counters. -/
  stats : ∀ name f, c.statsFailures.get? name = some f → P f
  /-- The failure of enumeration. -/
  enumeration : ∀ f, c.enumerationFailure = some f → P f

theorem Failing.apply {P : Failure → Prop} (h : c.Failing P) {op : Operation}
    (hop : ∀ f, op.injected? = some f → P f) : (c.apply op).Failing P := by
  have herase (name : String) : ∀ other f,
      (c.statsFailures.erase name).get? other = some f → P f := by
    intro other f hf
    rw [Table.get?_erase] at hf
    exact h.stats other f (Option.ite_none_left_eq_some.mp hf).2
  cases op with
  | addMap config stats => exact ⟨herase config.name, h.enumeration⟩
  | addObject name service => exact ⟨h.stats, h.enumeration⟩
  | remove name => exact ⟨herase name, h.enumeration⟩
  | forgetConfig name => exact ⟨h.stats, h.enumeration⟩
  | updateStats name stats =>
    rcases apply_updateStats c name stats with hc | hc
    · rw [hc]
      exact h
    · rw [hc]
      exact ⟨h.stats, h.enumeration⟩
  | failStats name failure =>
    refine ⟨fun other f hf => ?_, h.enumeration⟩
    change (c.statsFailures.put name _).get? other = _ at hf
    rw [Table.get?_put] at hf
    by_cases he : other = name
    · rw [if_pos he] at hf
      exact hop f hf
    · rw [if_neg he] at hf
      exact h.stats other f hf
  | failEnumeration failure => exact ⟨h.stats, hop⟩

/-- What holds of all failures that a history injects holds of all failures after it. -/
theorem failing_after {P : Failure → Prop} (service : String) {history : List Operation}
    (h : ∀ op ∈ history, ∀ f, op.injected? = some f → P f) :
    (after service history).Failing P := by
  refine List.foldlRecOn history Cluster.apply ⟨?_, ?_⟩ fun c hc op hop => hc.apply (h op hop)
  · intro name f hf
    cases hf
  · intro f hf
    cases hf

/-- A cluster holds no failures exactly when all that it holds satisfy what nothing satisfies. -/
theorem unfailing_iff : c.Unfailing ↔ c.Failing fun _ => False := by
  constructor
  · intro h
    refine ⟨fun name f hf => ?_, fun f hf => ?_⟩
    · rw [h.stats] at hf
      cases hf
    · rw [h.enumeration] at hf
      cases hf
  · intro h
    refine ⟨?_, Option.eq_none_iff_forall_ne_some.mpr h.enumeration⟩
    cases hc : c.statsFailures with
    | nil => rfl
    | cons e rest =>
      have hget : c.statsFailures.get? e.1 = some e.2 := by
        rw [hc, Table.get?_cons, if_pos (beq_self_eq_true e.1)]
      exact (h.stats e.1 e.2 hget).elim

/-- Where no failure is injected, none is injected by operations that inject none. -/
theorem Unfailing.apply (h : c.Unfailing) {op : Operation} (hop : op.injected? = none) :
    (c.apply op).Unfailing :=
  unfailing_iff.mpr ((unfailing_iff.mp h).apply (Option.eq_none_iff_forall_ne_some.mp hop))

theorem Unfailing.foldl_apply (h : c.Unfailing) {ops : List Operation}
    (hops : ∀ op ∈ ops, op.injected? = none) : (ops.foldl Cluster.apply c).Unfailing :=
  List.foldlRecOn ops Cluster.apply h fun _ hc op hop => hc.apply (hops op hop)

/-- Operations after a history are a longer history. -/
theorem foldl_apply_after (service : String) (history ops : List Operation) :
    ops.foldl Cluster.apply (after service history) = after service (history ++ ops) :=
  List.foldl_append.symm

end Cluster

end MapMetrics
