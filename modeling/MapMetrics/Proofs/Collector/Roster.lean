import MapMetrics.Proofs.Collector.Attempt
import Mathlib.Logic.Function.Basic

/-!
# Collectors that come and go

A collector is more than its entry in the registry: it stays what it is when it is taken out and put
back, and it can be asked for metrics whether it is registered or not. So collectors have numbers
here, and the registry is made of those whose numbers are registered. Each action is what the
registry or the collector makes of it, and one that is refused or fails changes nothing.
-/

namespace MapMetrics

/-- A collection of metrics is complete when the collector is due, its report is there and all
values in it denote integers. -/
theorem Collector.result_collect {σ : Type} (view : View σ) (c : Collector) (s : σ)
    (due now : Float) : ((c.collect due now).run view s).1.result =
      if c.isDue due then
        (c.report.run view s).1.result.bind fun report =>
          match report.mapM (c.metricOf now) with
          | .ok metrics => .ok (metrics, { c with last := now })
          | .error m => .error (.ofMishap m)
      else .ok ([], c) := by
  change (Query.evaluate view (c.collect due now) s).1 = _
  rw [Collector.collect]
  by_cases hdue : c.isDue due = true
  · rw [if_pos hdue, if_pos hdue, Query.evaluate_bind]
    change _ = (c.report.evaluate view s).1.bind _
    cases c.report.evaluate view s with
    | mk result t =>
      cases result with
      | error e => rfl
      | ok report =>
        simp only [Except.bind]
        cases report.mapM (c.metricOf now) <;> rfl
  · rw [if_neg hdue, if_neg hdue]
    rfl

/-- A collection of metrics changes nothing about the collector but its stamp, when it is due. -/
theorem Collector.eq_of_result_collect {σ : Type} {view : View σ} {c after : Collector} {s : σ}
    {due now : Float} {metrics : List Metric}
    (h : ((c.collect due now).run view s).1.result = .ok (metrics, after)) :
    after = if c.isDue due then { c with last := now } else c := by
  rw [Collector.result_collect] at h
  split at h
  · case isTrue hdue =>
    rw [if_pos hdue]
    cases hr : (c.report.run view s).1.result with
    | error e => rw [hr] at h; cases h
    | ok report =>
      simp only [hr, Except.bind] at h
      split at h
      · cases h
        rfl
      · cases h
  · case isFalse hdue =>
    rw [if_neg hdue]
    cases h
    rfl

/-- A collector is found under each name in the registry. -/
theorem Registry.exists_collector_iff {name : String} {r : Registry} :
    (∃ c, r.collector name = .ok c) ↔ name ∈ r.names := by
  rw [collector, names, List.mem_map]
  cases hfind : r.collectors.find? fun c => c.name == name with
  | none =>
    refine iff_of_false nofun fun ⟨c, hc, hname⟩ => ?_
    exact List.find?_eq_none.mp hfind c hc (beq_iff_eq.mpr hname)
  | some c =>
    have hname := List.find?_some hfind
    exact iff_of_true ⟨c, rfl⟩ ⟨c, List.mem_of_find?_eq_some hfind, beq_iff_eq.mp hname⟩

/-- Collectors by number, and the numbers of those that are registered, in order. -/
structure Roster where
  /-- The collectors. -/
  collectors : Nat → Collector
  /-- The numbers of the registered ones. -/
  registered : List Nat := []

namespace Roster

/-- What is done to collectors and with them. -/
inductive Action (σ : Type) where
  /-- Registers a collector. -/
  | register (i : Nat)
  /-- Takes the collector of a name out of the registry. -/
  | unregister (name : String)
  /-- Lets the collector of a name collect, or not. -/
  | setEnabled (name : String) (enabled : Bool)
  /-- Sets the interval of the collector of a name. -/
  | setInterval (name : String) (interval : Float)
  /-- Lets the reports of a collector come out otherwise from now on. -/
  | setSource (i : Nat) (source : Source)
  /-- Asks all registered collectors, of a cluster in some state. -/
  | collectAll (s : σ) (readings : Registry.Readings)
  /-- Asks a collector for metrics, of a cluster in some state. -/
  | collect (i : Nat) (s : σ) (due after : Float)

variable {σ : Type}

/-- The registry of the registered collectors. -/
def registry (r : Roster) : Registry :=
  ⟨r.registered.map r.collectors⟩

/-- The roster with the registered collectors as a registry has them. -/
def restock (after : Registry) (r : Roster) : Roster :=
  { r with collectors := fun i =>
      ((r.registered.idxOf? i).bind fun p => after.collectors[p]?).getD (r.collectors i) }

/-- The roster with the registered collectors as they come out of a request, unless it fails. -/
def settle {ε : Type} (request : Except ε Registry) (r : Roster) : Roster :=
  match request with
  | .ok after => r.restock after
  | .error _ => r

/-- The roster with another collector in the place of one. -/
def replace (i : Nat) (c : Collector) (r : Roster) : Roster :=
  { r with collectors := Function.update r.collectors i c }

/-- The roster after an action. -/
def apply (view : View σ) (r : Roster) : Action σ → Roster
  | .register i =>
    match r.registry.register (r.collectors i) with
    | .ok _ => { r with registered := r.registered ++ [i] }
    | .error _ => r
  | .unregister name =>
    match r.registry.unregister name with
    | .ok _ => { r with registered := r.registered.filter fun i => (r.collectors i).name != name }
    | .error _ => r
  | .setEnabled name enabled => r.settle (r.registry.setEnabled name enabled)
  | .setInterval name interval => r.settle (r.registry.setInterval name interval)
  | .setSource i source => r.replace i { r.collectors i with source := source }
  | .collectAll s readings =>
    r.settle (((Registry.collectAll readings r.registry).run view s).1.result.map (·.2))
  | .collect i s due after =>
    match (((r.collectors i).collect due after).run view s).1.result with
    | .ok (_, c) => r.replace i c
    | .error _ => r

/-- The roster after some actions. -/
def after (view : View σ) (r : Roster) (actions : List (Action σ)) : Roster :=
  actions.foldl (apply view) r

/-- A completed collection of a collector. -/
structure Completion where
  /-- The clock when the collector was asked whether it is due. -/
  due : Float
  /-- The interval that was in force. -/
  interval : Float
  /-- The clock when the collection was complete. -/
  stamp : Float

/-- The collection of a collector that an action completes: its report is merged with those of the
others, or it is due and gives its metrics. -/
def completion? (view : View σ) (r : Roster) (i : Nat) : Action σ → Option Completion
  | .collectAll s readings =>
    (r.registered.idxOf? i).bind fun p =>
      if Registry.merges [] (Registry.offers view readings 0 r.registry.collectors s) p then
        some ⟨readings.due p, (r.collectors i).interval, readings.merged p⟩
      else none
  | .collect j s due now =>
    if i = j ∧ (r.collectors i).isDue due = true ∧
        (((r.collectors i).collect due now).run view s).1.result.toOption.isSome = true then
      some ⟨due, (r.collectors i).interval, now⟩
    else none
  | _ => none

/-- The stamp of a collector after an action: that of the collection it completes, if it does. -/
def stampAfter (view : View σ) (r : Roster) (i : Nat) (a : Action σ) : Float :=
  ((r.completion? view i a).map (·.stamp)).getD (r.collectors i).last

/-! ## One collector -/

variable {view : View σ} {r : Roster} {i p : Nat}

/-- A registered collector stands in the registry where its number stands. -/
theorem getElem?_registry (h : r.registered.idxOf? i = some p) :
    r.registry.collectors[p]? = some (r.collectors i) := by
  obtain ⟨hp, hi, -⟩ := List.idxOf?_eq_some_iff.mp h
  rw [registry, List.getElem?_map, List.getElem?_eq_getElem hp, hi, Option.map_some]

theorem collectors_restock {after : Registry} {c : Collector} (h : r.registered.idxOf? i = some p)
    (hc : after.collectors[p]? = some c) : (r.restock after).collectors i = c := by
  simp only [restock, h, Option.bind_some, hc, Option.getD_some]

theorem collectors_restock_of_none {after : Registry} (h : r.registered.idxOf? i = none) :
    (r.restock after).collectors i = r.collectors i := by
  simp only [restock, h, Option.bind_none, Option.getD_none]

/-- Putting a collector in the place of one leaves the others alone. -/
theorem collectors_replace (r : Roster) (j : Nat) (c : Collector) (i : Nat) :
    (r.replace j c).collectors i = if i = j then c else r.collectors i :=
  Function.update_apply r.collectors j c i

/-- A change reaches the registered collector of the name, and no other one. -/
theorem collectors_settle_change (r : Roster) (name : String) (f : Collector → Collector)
    (i : Nat) : (r.settle (r.registry.change name f)).collectors i =
      if i ∈ r.registered ∧ (r.collectors i).name = name then f (r.collectors i)
      else r.collectors i := by
  rw [Registry.change]
  cases hfound : r.registry.collector name with
  | error e =>
    refine (if_neg fun h => ?_).symm
    have hname : name ∈ r.registry.names :=
      h.2 ▸ List.mem_map_of_mem (List.mem_map_of_mem h.1)
    obtain ⟨c, hc⟩ := Registry.exists_collector_iff.mpr hname
    rw [hfound] at hc
    cases hc
  | ok found =>
    change (r.restock (r.registry.update name f)).collectors i = _
    cases h : r.registered.idxOf? i with
    | none =>
      rw [collectors_restock_of_none h,
        if_neg fun registered => List.idxOf?_eq_none_iff.mp h registered.1]
    | some p =>
      have hmem : i ∈ r.registered := by
        obtain ⟨hp, rfl, -⟩ := List.idxOf?_eq_some_iff.mp h
        exact List.getElem_mem hp
      have hc : (r.registry.update name f).collectors[p]? =
          some (if (r.collectors i).name == name then f (r.collectors i) else r.collectors i) := by
        rw [Registry.update, List.getElem?_map, getElem?_registry h, Option.map_some]
      rw [collectors_restock h hc]
      simp only [hmem, true_and, beq_iff_eq]

/-- A run over all collectors does nothing but stamp. -/
theorem collectors_collectAll (r : Roster) (s : σ) (readings : Registry.Readings) (i : Nat) :
    (r.apply view (.collectAll s readings)).collectors i =
      { r.collectors i with last := r.stampAfter view i (.collectAll s readings) } := by
  obtain ⟨outcome, hrun⟩ := Registry.result_collectAll_mapIdx view s readings r.registry
  rw [apply, hrun, stampAfter, completion?]
  change (r.restock _).collectors i = _
  cases h : r.registered.idxOf? i with
  | none => rw [collectors_restock_of_none h]; rfl
  | some p =>
    rw [collectors_restock h
      (by rw [List.getElem?_mapIdx, getElem?_registry h, Option.map_some]), Option.bind_some]
    split <;> rfl

/-- A collection by one collector does nothing but stamp it. -/
theorem collectors_collect (r : Roster) (j : Nat) (s : σ) (due now : Float) (i : Nat) :
    (r.apply view (.collect j s due now)).collectors i =
      { r.collectors i with last := r.stampAfter view i (.collect j s due now) } := by
  rw [apply, stampAfter, completion?]
  by_cases hij : i = j
  · subst hij
    cases hresult : (((r.collectors i).collect due now).run view s).1.result with
    | error e =>
      rw [if_neg fun h => Bool.noConfusion h.2.2]
      rfl
    | ok done =>
      obtain ⟨metrics, c⟩ := done
      change (r.replace i c).collectors i = _
      rw [collectors_replace, if_pos rfl, Collector.eq_of_result_collect hresult]
      by_cases hdue : (r.collectors i).isDue due = true
      · rw [if_pos hdue, if_pos ⟨rfl, hdue, rfl⟩]
        rfl
      · rw [if_neg hdue, if_neg fun h => hdue h.2.1]
        rfl
  · rw [if_neg fun h => hij h.1]
    split
    · rw [collectors_replace, if_neg hij]
      rfl
    · rfl

/-- What an action makes of each collector. -/
theorem collectors_apply (r : Roster) (a : Action σ) (i : Nat) :
    (r.apply view a).collectors i = match a with
      | .register _ | .unregister _ => r.collectors i
      | .setEnabled name enabled =>
        if i ∈ r.registered ∧ (r.collectors i).name = name then
          { r.collectors i with enabled := enabled }
        else r.collectors i
      | .setInterval name interval =>
        if ¬ interval ≤ 0.0 ∧ i ∈ r.registered ∧ (r.collectors i).name = name then
          { r.collectors i with interval := interval }
        else r.collectors i
      | .setSource j source => if i = j then { r.collectors i with source := source }
        else r.collectors i
      | .collectAll _ _ | .collect _ _ _ _ =>
        { r.collectors i with last := r.stampAfter view i a } := by
  cases a with
  | register j =>
    rw [apply]
    split <;> rfl
  | unregister name =>
    rw [apply]
    split <;> rfl
  | setEnabled name enabled => exact collectors_settle_change r name _ i
  | setInterval name interval =>
    rw [apply, Registry.setInterval]
    by_cases hv : interval ≤ 0.0
    · simp only [hv, not_true, false_and, if_false]
      rfl
    · simp only [hv, not_false_eq_true, true_and]
      exact collectors_settle_change r name _ i
  | setSource j source =>
    rw [apply, collectors_replace]
    by_cases hij : i = j
    · subst hij
      rfl
    · simp only [if_neg hij]
  | collectAll s readings => exact collectors_collectAll r s readings i
  | collect j s due now => exact collectors_collect r j s due now i

/-- Apart from its switch, its interval and its source, a collector changes by stamps only. -/
theorem apply_keeps {β : Type} (get : Collector → β)
    (henabled : ∀ c enabled, get { c with enabled := enabled } = get c)
    (hinterval : ∀ c interval, get { c with interval := interval } = get c)
    (hsource : ∀ c source, get { c with source := source } = get c)
    (r : Roster) (a : Action σ) (i : Nat) : get ((r.apply view a).collectors i) =
      get { r.collectors i with last := r.stampAfter view i a } := by
  rw [collectors_apply]
  cases a with
  | register j => rfl
  | unregister name => rfl
  | setEnabled name enabled =>
    dsimp only
    split
    · exact henabled _ enabled
    · rfl
  | setInterval name interval =>
    dsimp only
    split
    · exact hinterval _ interval
    · rfl
  | setSource j source =>
    dsimp only
    split
    · exact hsource _ source
    · rfl
  | collectAll s readings => rfl
  | collect j s due now => rfl

/-- Names never change. -/
theorem name_apply (r : Roster) (a : Action σ) (i : Nat) :
    ((r.apply view a).collectors i).name = (r.collectors i).name :=
  apply_keeps Collector.name (fun _ _ => rfl) (fun _ _ => rfl) (fun _ _ => rfl) r a i

/-- The stamp changes when an action completes a collection, and not otherwise. -/
theorem last_apply (r : Roster) (a : Action σ) (i : Nat) :
    ((r.apply view a).collectors i).last = r.stampAfter view i a :=
  apply_keeps Collector.last (fun _ _ => rfl) (fun _ _ => rfl) (fun _ _ => rfl) r a i

/-- A completed collection was due, by the interval in force. -/
theorem isDue_of_completion {r : Roster} {i : Nat} {a : Action σ} {done : Completion}
    (h : r.completion? view i a = some done) :
    (r.collectors i).isDue done.due = true ∧ done.interval = (r.collectors i).interval := by
  cases a with
  | register j => cases h
  | unregister name => cases h
  | setEnabled name enabled => cases h
  | setInterval name interval => cases h
  | setSource j source => cases h
  | collectAll s readings =>
    obtain ⟨p, hp, h⟩ := Option.bind_eq_some_iff.mp h
    split at h
    · case isTrue merged =>
      obtain rfl := Option.some.inj h
      obtain ⟨report, hreport⟩ := Registry.exists_report_of_merges merged
      rw [Registry.getElem?_offers, getElem?_registry hp, Option.map_some, Option.some.injEq,
        Registry.offer_eq_some_iff, Nat.zero_add] at hreport
      exact ⟨hreport.1, rfl⟩
    · cases h
  | collect j s due now =>
    rw [completion?] at h
    split at h
    · case isTrue complete =>
      obtain rfl := Option.some.inj h
      exact ⟨complete.2.1, rfl⟩
    · cases h

/-! ## The registry of a roster -/

/-- No two registered collectors have the same name. -/
def Distinct (r : Roster) : Prop :=
  r.registry.names.Nodup

theorem names_registry (r : Roster) :
    r.registry.names = r.registered.map fun i => (r.collectors i).name := by
  rw [Registry.names, registry, List.map_map]
  rfl

/-- Writing back a registry with as many collectors gives this registry. -/
theorem registry_restock {r : Roster} {after : Registry} (hd : r.registered.Nodup)
    (hlength : after.collectors.length = r.registered.length) :
    (r.restock after).registry = after := by
  have hcollectors : r.registered.map (r.restock after).collectors = after.collectors := by
    refine List.ext_getElem (by rw [List.length_map, hlength]) fun p hp hp' => ?_
    have hi : r.registered.idxOf? r.registered[p] = some p := by
      rw [List.idxOf?_eq_some_iff]
      refine ⟨hlength ▸ hp', rfl, fun q hq heq => ?_⟩
      exact absurd ((hd.getElem_inj_iff).mp heq) (Nat.ne_of_lt hq)
    rw [List.getElem_map, collectors_restock hi (List.getElem?_eq_getElem hp')]
  rw [registry]
  exact congrArg Registry.mk hcollectors

/-- Where no two registered collectors have the same name, each is registered once. -/
theorem Distinct.nodup {r : Roster} (hd : r.Distinct) : r.registered.Nodup := by
  rw [Distinct, names_registry] at hd
  exact hd.of_map

theorem registered_settle {ε : Type} (r : Roster) (request : Except ε Registry) :
    (r.settle request).registered = r.registered := by
  cases request <;> rfl

/-- A change to the collector of a name is what the registry makes of it. -/
theorem registry_settle_change {r : Roster} (hd : r.Distinct) (name : String)
    (f : Collector → Collector) : (r.settle (r.registry.change name f)).registry =
      (r.registry.change name f).toOption.getD r.registry := by
  rw [Registry.change]
  cases r.registry.collector name with
  | error e => rfl
  | ok found =>
    refine registry_restock hd.nodup ?_
    rw [Registry.update, List.length_map, registry, List.length_map]

/-- A collector is registered unless its name is taken. -/
theorem apply_register (r : Roster) (i : Nat) : r.apply view (.register i) =
    if r.registry.names.contains (r.collectors i).name then r
    else { r with registered := r.registered ++ [i] } := by
  rw [apply, Registry.register]
  by_cases h : r.registry.names.contains (r.collectors i).name = true
  · rw [if_pos h, if_pos h]
  · rw [if_neg h, if_neg h]

/-- A name is taken out of the registry when it is there. -/
theorem apply_unregister (r : Roster) (name : String) : r.apply view (.unregister name) =
    if r.registry.names.contains name then
      { r with registered := r.registered.filter fun i => (r.collectors i).name != name }
    else r := by
  rw [apply, Registry.unregister]
  by_cases h : r.registry.names.contains name = true
  · rw [if_pos h, if_pos h]
  · rw [if_neg h, if_neg h]

/-- Where no two registered collectors have the same name, each action does to the registry what
the registry makes of it, and leaves it as it is when it is refused. -/
theorem registry_apply {r : Roster} (hd : r.Distinct) (a : Action σ) :
    match a with
    | .register i => (r.apply view a).registry =
        (r.registry.register (r.collectors i)).toOption.getD r.registry
    | .unregister name => (r.apply view a).registry =
        (r.registry.unregister name).toOption.getD r.registry
    | .setEnabled name enabled => (r.apply view a).registry =
        (r.registry.setEnabled name enabled).toOption.getD r.registry
    | .setInterval name interval => (r.apply view a).registry =
        (r.registry.setInterval name interval).toOption.getD r.registry
    | .collectAll s readings => ∃ outcome,
        ((Registry.collectAll readings r.registry).run view s).1.result =
          .ok (outcome, (r.apply view a).registry)
    | .setSource _ _ => (r.apply view a).registered = r.registered
    | .collect _ _ _ _ => (r.apply view a).registered = r.registered := by
  cases a with
  | register i =>
    simp only [apply_register, Registry.register]
    split
    · rfl
    · exact congrArg Registry.mk (List.map_append ..)
  | unregister name =>
    simp only [apply_unregister, Registry.unregister]
    split
    · change (⟨(r.registered.filter fun i => (r.collectors i).name != name).map r.collectors⟩ :
        Registry) = ⟨(r.registered.map r.collectors).filter fun c => c.name != name⟩
      rw [List.filter_map]
      rfl
    · rfl
  | setEnabled name enabled => exact registry_settle_change hd name _
  | setInterval name interval =>
    simp only [apply, Registry.setInterval]
    split
    · rfl
    · exact registry_settle_change hd name _
  | setSource i source => rfl
  | collectAll s readings =>
    obtain ⟨outcome, hrun⟩ := Registry.result_collectAll_mapIdx view s readings r.registry
    refine ⟨outcome, ?_⟩
    simp only [apply, hrun, Except.map, settle]
    rw [registry_restock hd.nodup (by rw [List.length_mapIdx, registry, List.length_map])]
  | collect i s due now =>
    simp only [apply]
    split <;> rfl

/-- Actions leave no two registered collectors with the same name. -/
theorem Distinct.apply {r : Roster} (hd : r.Distinct) (a : Action σ) :
    (r.apply view a).Distinct := by
  rw [Distinct, names_registry] at hd
  have hsame (h : (r.apply view a).registered = r.registered) : (r.apply view a).Distinct := by
    rw [Distinct, names_registry, h]
    simp only [name_apply]
    exact hd
  cases a with
  | register i =>
    rw [Distinct, names_registry, apply_register]
    split
    · exact hd
    · case isFalse fresh =>
      rw [names_registry, List.contains_iff_mem] at fresh
      rw [List.map_append, List.map_singleton]
      exact List.nodup_append.mpr ⟨hd, List.nodup_singleton _, fun a ha b hb hab =>
        fresh (List.mem_singleton.mp hb ▸ hab ▸ ha)⟩
  | unregister name =>
    rw [Distinct, names_registry, apply_unregister]
    split
    · exact hd.sublist (List.filter_sublist.map _)
    · exact hd
  | setEnabled name enabled => exact hsame (registered_settle r _)
  | setInterval name interval => exact hsame (registered_settle r _)
  | setSource i source => exact hsame rfl
  | collectAll s readings => exact hsame (registered_settle r _)
  | collect i s due now =>
    refine hsame ?_
    simp only [Roster.apply]
    split <;> rfl

end Roster

end MapMetrics
