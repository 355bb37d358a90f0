import MapMetrics.Proofs.Cluster.Frame
import Mathlib.Data.List.Induction

/-!
# What a cluster keeps

Clients may do to a cluster what they like, also what is refused: its tables always lie inside of
each other. A name with a configuration has counters, a name with counters is listed, and no name is
listed twice. So a listed name can be looked up, and the counters of a map that resolves can be read
unless reads of them have been made to fail. This lasts until the map is registered anew or removed,
or until another failure takes the place of the one that was injected.
-/

namespace MapMetrics

/-- An operation decides anew whether the counters under a name can be read. -/
def Operation.Settles (name : String) : Operation → Prop
  | addMap config _ => config.name = name
  | remove other => other = name
  | failStats other _ => other = name
  | _ => False

namespace Cluster

/-- A failure has been injected into the reads of the counters under a name, and nothing that came
later in the history has settled anything about these reads. -/
def InForce (history : List Operation) (name : String) (failure : Failure) : Prop :=
  ∃ earlier injected later, history = earlier ++ .failStats name injected :: later ∧
    failure = injected.getD (injectedFailure name) ∧ ∀ op ∈ later, ¬ op.Settles name

/-- The tables of a cluster lie inside of each other, and list no name twice. -/
structure Nested (c : Cluster) (services : Table String) : Prop where
  /-- Configurations stand under their own names, with counters beside them. -/
  sound : c.Sound
  /-- The objects are a table. -/
  directory : c.Directory services.texts
  /-- What has counters is listed. -/
  listed : ∀ {name}, (c.stats.get? name).isSome = true → (services.get? name).isSome = true

/-! ## Tables inside of each other -/

theorem nested_empty (service : String) : Nested { mapService := service } [] where
  sound := sound_empty service
  directory := directory_empty service
  listed h := by cases h

/-- Counters are put where a map is registered, and go where an object is removed. -/
private theorem isSome_relist {c : Cluster} {services : Table String} (h : c.Nested services)
    (op : Operation) {name : String} (hs : ((c.apply op).stats.get? name).isSome = true) :
    ((op.relist c.mapService services).get? name).isSome = true := by
  cases op with
  | addMap config stats =>
    change ((c.stats.put config.name _).get? name).isSome = true at hs
    rw [Table.get?_put] at hs
    rw [Operation.relist, Table.get?_put]
    by_cases he : name = config.name
    · rw [if_pos he]
      rfl
    · rw [if_neg he] at hs ⊢
      exact h.listed hs
  | addObject other service =>
    rw [Operation.relist, Table.get?_put]
    by_cases he : name = other
    · rw [if_pos he]
      rfl
    · rw [if_neg he]
      exact h.listed hs
  | remove other =>
    change ((c.stats.erase other).get? name).isSome = true at hs
    rw [Table.get?_erase] at hs
    rw [Operation.relist, Table.get?_erase]
    by_cases he : name = other
    · rw [if_pos he] at hs
      cases hs
    · rw [if_neg he] at hs ⊢
      exact h.listed hs
  | updateStats other stats =>
    -- counters are only replaced, so that this name has had counters before
    refine h.listed (?_ : (c.stats.get? name).isSome = true)
    rw [apply, Operation.perform, updateStats] at hs
    by_cases hc : (c.configs.get? other).isNone = true
    · rwa [if_pos hc] at hs
    · rw [if_neg hc] at hs
      change ((c.stats.put other stats).get? name).isSome = true at hs
      rw [Table.get?_put] at hs
      by_cases he : name = other
      · obtain ⟨config, hconfig⟩ :=
          Option.ne_none_iff_exists'.mp (mt Option.isNone_iff_eq_none.mpr hc)
        obtain ⟨found, hfound⟩ := h.sound.counted hconfig
        rw [he, hfound]
        rfl
      · rwa [if_neg he] at hs
  | forgetConfig other => exact h.listed hs
  | failStats other failure => exact h.listed hs
  | failEnumeration failure => exact h.listed hs

/-- An operation keeps the tables inside of each other. -/
theorem Nested.apply {c : Cluster} {services : Table String} (h : c.Nested services)
    (op : Operation) : (c.apply op).Nested (op.relist c.mapService services) where
  sound := by
    rw [Cluster.apply]
    cases hc : op.perform c with
    | ok changed => exact h.sound.perform hc
    | error f => exact h.sound
  directory := h.directory.apply op
  listed hs := isSome_relist h op hs

/-- After every history the tables lie inside of each other. -/
theorem nested_after (service : String) (history : List Operation) :
    ∃ services : Table String, (after service history).Nested services := by
  refine List.foldlRecOn (motive := fun c => ∃ services : Table String, c.Nested services)
    history Cluster.apply ⟨[], nested_empty service⟩ ?_
  rintro c ⟨services, h⟩ op -
  exact ⟨_, h.apply op⟩

/-! ## Injected failures -/

/-- Reads of counters go on as before unless an operation settles something about them. -/
private theorem failures_apply {op : Operation} {name : String} (h : ¬ op.Settles name)
    (c : Cluster) : (c.apply op).statsFailures.get? name = c.statsFailures.get? name := by
  cases op with
  | addMap config stats =>
    exact (Table.get?_erase c.statsFailures config.name name).trans (if_neg fun he => h he.symm)
  | remove other =>
    exact (Table.get?_erase c.statsFailures other name).trans (if_neg fun he => h he.symm)
  | failStats other failure =>
    exact (Table.get?_put c.statsFailures other name _).trans (if_neg fun he => h he.symm)
  | updateStats other stats =>
    rcases apply_updateStats c other stats with hc | hc <;> rw [hc]
  | addObject other service => rfl
  | forgetConfig other => rfl
  | failEnumeration failure => rfl

/-- Of all operations that settle something about reads of counters, only injecting a failure lets
them fail. -/
private theorem failures_apply_of_settles {op : Operation} {name : String} (h : op.Settles name)
    (c : Cluster) (f : Failure) : (c.apply op).statsFailures.get? name = some f ↔
      ∃ injected, op = .failStats name injected ∧ f = injected.getD (injectedFailure name) := by
  cases op with
  | addMap config stats =>
    have hnone : (c.apply (.addMap config stats)).statsFailures.get? name = none :=
      (Table.get?_erase c.statsFailures config.name name).trans (if_pos h.symm)
    simp [hnone]
  | remove other =>
    have hnone : (c.apply (.remove other)).statsFailures.get? name = none :=
      (Table.get?_erase c.statsFailures other name).trans (if_pos h.symm)
    simp [hnone]
  | failStats other failure =>
    obtain rfl : other = name := h
    have hsome : (c.apply (.failStats other failure)).statsFailures.get? other =
        some (failure.getD (injectedFailure other)) :=
      (Table.get?_put c.statsFailures other other _).trans (if_pos rfl)
    simp [hsome, eq_comm]
  | _ => exact h.elim

/-- A failure is in force after one more operation when this has just injected it, or when it was in
force before and nothing has been settled. -/
private theorem inForce_concat_iff {history : List Operation} {op : Operation} {name : String}
    {f : Failure} : InForce (history ++ [op]) name f ↔
      (∃ injected, op = .failStats name injected ∧ f = injected.getD (injectedFailure name)) ∨
        ¬ op.Settles name ∧ InForce history name f := by
  constructor
  · rintro ⟨earlier, injected, later, heq, hf, hlater⟩
    rcases List.eq_nil_or_concat later with rfl | ⟨front, last, rfl⟩
    · obtain ⟨-, hop⟩ := List.append_inj' heq rfl
      exact .inl ⟨injected, (List.cons.inj hop).1, hf⟩
    · rw [List.concat_eq_append, ← List.cons_append, ← List.append_assoc] at heq
      obtain ⟨hfront, hop⟩ := List.append_inj' heq rfl
      obtain rfl := (List.cons.inj hop).1
      rw [List.concat_eq_append, List.forall_mem_append] at hlater
      exact .inr ⟨hlater.2 op (List.mem_singleton_self op), earlier, injected, front, hfront, hf,
        hlater.1⟩
  · rintro (⟨injected, rfl, hf⟩ | ⟨hop, earlier, injected, later, rfl, hf, hlater⟩)
    · exact ⟨history, injected, [], rfl, hf, List.forall_mem_nil _⟩
    · refine ⟨earlier, injected, later ++ [op], by simp, hf, ?_⟩
      exact List.forall_mem_append.mpr ⟨hlater, List.forall_mem_singleton.mpr hop⟩

/-- Reads of counters meet a failure exactly when it is in force. -/
theorem get?_statsFailures_after (service : String) (history : List Operation) (name : String)
    (f : Failure) :
    (after service history).statsFailures.get? name = some f ↔ InForce history name f := by
  induction history using List.reverseRecOn with
  | nil => simp [InForce, after]
  | append_singleton history op ih =>
    have hstep : after service (history ++ [op]) = (after service history).apply op :=
      List.foldl_append
    rw [hstep, inForce_concat_iff]
    by_cases h : op.Settles name
    · rw [failures_apply_of_settles h]
      exact ⟨.inl, fun hf => hf.resolve_right fun hn => hn.1 h⟩
    · rw [failures_apply h, ih]
      refine ⟨fun hf => .inr ⟨h, hf⟩, fun hf => (hf.resolve_left ?_).2⟩
      rintro ⟨injected, rfl, -⟩
      exact h rfl

/-! ## Lookups -/

/-- A name can be looked up exactly when it is listed. -/
theorem exists_mapConfig_iff {c : Cluster} {name : String} :
    (∃ found, c.mapConfig name = .ok found) ↔ c.lists name = true := by
  rw [mapConfig]
  by_cases h : c.lists name <;> simp [h]

/-- Where the objects are a table that can be enumerated, each listed name is enumerated once. -/
theorem Directory.names_infos {c : Cluster} {t : Table Value} (h : c.Directory t)
    {infos : List ObjectInfo} (hd : c.distributedObjects = .ok infos) :
    (infos.map (·.name)).Nodup ∧ ∀ name, name ∈ infos.map (·.name) ↔ c.lists name = true := by
  have hnames : infos.map (·.name) = t.names :=
    Identify.names (h.objects ▸ (distributedObjects_eq_ok_iff.mp hd).2)
  rw [hnames]
  refine ⟨h.distinct, fun name => ?_⟩
  rw [Table.mem_names_iff, h.lists_iff]

/-- After every history, whatever of it was refused: a name with a configuration carries it under
its own name and has counters, a name with counters is listed, and no name is listed twice. Unless
a failure is injected into that, enumeration gives the listed names, each once. Every listed name
can be looked up; the counters of a map that resolves can be read unless
an injected failure is in force; an index holds no name twice. What the next operation does under
one name changes no lookup under another. A failure is met by every read of the counters under its
name as long as it is in force, and afterwards none is. -/
theorem store_after (service : String) (history : List Operation) :
    let c := after service history
    (∀ name config, c.configs.get? name = some config →
      config.name = name ∧ (c.stats.get? name).isSome = true) ∧
    (∀ name, (c.stats.get? name).isSome = true → c.lists name = true) ∧
    (∃ names : List String, c.objects.map (·.1) = names.map Value.text ∧ names.Nodup) ∧
    ((∃ infos, c.distributedObjects = .ok infos) ↔ c.enumerationFailure = none) ∧
    (∀ infos, c.distributedObjects = .ok infos → (infos.map (·.name)).Nodup ∧
      ∀ name, name ∈ infos.map (·.name) ↔ c.lists name = true) ∧
    (∀ name, c.lists name = true → ∃ found, c.mapConfig name = .ok found) ∧
    (∀ name config f, c.mapConfig name = .ok (some config) → c.mapStats name = .error f →
      InForce history name f) ∧
    (∀ maps configs, ((configIndex maps).run view c).1.result = .ok configs →
      (configs.map (·.name)).Nodup) ∧
    (∀ op name, op.target? ≠ some name →
      (c.apply op).lists name = c.lists name ∧ (c.apply op).mapConfig name = c.mapConfig name ∧
        (c.apply op).mapStats name = c.mapStats name) ∧
    ∀ name, (∀ f, InForce history name f → c.mapStats name = .error f) ∧
      ((∀ f, ¬ InForce history name f) → c.mapStats name =
        match c.stats.get? name with
        | some stats => .ok stats
        | none => .error (.statsUnavailable name
            (some ("Map '" ++ name ++ "' has no local statistics")) none)) := by
  intro c
  obtain ⟨services, h⟩ := nested_after service history
  refine ⟨fun name config hc => ?_, fun name hs => ?_, ?_,
    h.directory.exists_distributedObjects_iff, fun infos hd => h.directory.names_infos hd,
    fun name hl => exists_mapConfig_iff.mpr hl, fun name config f hc hf => ?_,
    fun maps configs hi => ?_, fun op name hop => ?_, fun name =>
      ⟨fun f hf => ?_, fun hnone => ?_⟩⟩
  · obtain ⟨stats, hs⟩ := h.sound.counted hc
    exact ⟨h.sound.named hc, by rw [hs]; rfl⟩
  · rw [h.directory.lists_iff, Table.get?_texts, Option.isSome_map]
    exact h.listed hs
  · refine ⟨services.texts.names, ?_, h.directory.distinct⟩
    rw [h.directory.objects, Table.listed, List.map_map, Table.names, List.map_map]
    rfl
  · have hr : c.resolved? name = some config := by rw [resolved?, hc]
    rw [h.sound.mapStats_of_resolved hr] at hf
    cases hfails : c.statsFailures.get? name with
    | none =>
      rw [hfails] at hf
      cases hf
    | some failure =>
      rw [hfails] at hf
      exact (get?_statsFailures_after service history name f).mp
        (hfails.trans (congrArg some (Except.error.inj hf)))
  · rw [Query.run_cluster_result] at hi
    obtain ⟨-, rfl⟩ := result_configIndex_eq_ok_iff.mp hi
    exact h.sound.nodup_indexOf h.directory maps
  · have halike := h.directory.alike_apply hop
    exact ⟨by rw [lists, lists, halike.service], halike.mapConfig, halike.mapStats⟩
  · rw [mapStats, (get?_statsFailures_after service history name f).mpr hf]
  · have hfails : c.statsFailures.get? name = none :=
      Option.eq_none_iff_forall_ne_some.mpr fun f hf =>
        hnone f ((get?_statsFailures_after service history name f).mp hf)
    cases hstats : c.stats.get? name <;> simp only [mapStats, hfails, hstats]

/-- A market at work: a map that is registered anew after reads of its counters have failed, a map
with one failure in the place of another and hidden by an object, and a request for a map that is
not there. -/
def market : List Operation := [
  .addMap { name := "orders" } (some { totalGetLatency := 105, getOperationCount := 10 }),
  .failStats "orders" none,
  .addMap { name := "orders" } none,
  .addMap { name := "carts" } none,
  .failStats "carts" (some (.clusterUnavailable none none)),
  .failStats "carts" none,
  .updateStats "users" {},
  .addObject "carts" "hz:impl:queueService"]

/-- Only the last failure that was injected is met, and the map that was registered anew can be
read. -/
theorem store_after_market :
    let c := after defaultMapService market
    (∃ infos, c.distributedObjects = .ok infos ∧ (infos.map (·.name)).Nodup) ∧
      InForce market "carts" (injectedFailure "carts") ∧
      c.mapStats "carts" = .error (injectedFailure "carts") ∧
      (∀ f, ¬ InForce market "orders" f) ∧ c.mapStats "orders" = .ok {} ∧
      (c.apply (.remove "carts")).mapStats "orders" = .ok {} := by
  intro c
  have hcarts : InForce market "carts" (injectedFailure "carts") :=
    ⟨market.take 5, none, market.drop 6, rfl, rfl, by simp [market, Operation.Settles]⟩
  have horders (f : Failure) : ¬ InForce market "orders" f := by
    intro hf
    have hget := (get?_statsFailures_after defaultMapService market "orders" f).mpr hf
    cases hget
  obtain ⟨-, -, -, hexists, hinfos, -, -, -, hframe, hreads⟩ :=
    store_after defaultMapService market
  obtain ⟨infos, hd⟩ := hexists.mpr rfl
  have hzero : c.mapStats "orders" = .ok {} := (hreads "orders").2 horders
  refine ⟨⟨infos, hd, (hinfos infos hd).1⟩, hcarts, (hreads "carts").1 _ hcarts, horders, hzero, ?_⟩
  exact (hframe (.remove "carts") "orders" (by simp [Operation.target?])).2.2.trans hzero

end Cluster

end MapMetrics
