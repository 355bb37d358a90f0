import MapMetrics.Proofs.Collector.Timeline
import MapMetrics.Proofs.Loading.Settings
import MapMetrics.Proofs.Validation.Restoring

/-!
# Intervals of collectors

An interval is looked at twice: by the settings that a collector is built from, which ask that it is
above zero, and by the registry when it is changed, which asks that it is not at most zero. About
numbers the two agree, and so all intervals stay above zero. What is no number is refused by the
settings and let pass by the registry, and a collector with such an interval is never due again.
-/

namespace MapMetrics

open MapMetrics.Field Outcome Rounding

/-- Settings that are given an interval and nothing else. -/
def Settings.intervalGiven (v : Float) : Value :=
  Model.fields [("collection_interval", .float v)]

/-- Settings take exactly the intervals above zero, and say of the others that they are not. -/
theorem Settings.ofValue_intervalGiven (v : Float) :
    (Model.ofValue (intervalGiven v) : Outcome Settings) =
      if 0.0 < v then .valid { collectionInterval := v }
      else .invalid ⟨[.field "collection_interval"], .notPositive, .float v⟩ [] := by
  let given : Table Value := [("collection_interval", .float v)]
  have habsent {α : Type} (name : String) (default : α) (read : Value → Outcome α)
      (h : ¬ (name == "collection_interval") = true) :
      Field.optional given.listed name default read = .valid default :=
    optional_absent default read (by rw [Table.get?_cons, if_neg h, Table.get?_nil])
  have hinterval : Field.optional given.listed "collection_interval" 60.0 positive =
      (positive (.float v)).within (.field "collection_interval") := by
    rw [Field.optional, Table.field?_listed]
    rfl
  have hknown : onlyKnown fieldNames given.listed = .valid () := rfl
  refine (closedRecord_mapping given.listed).trans ?_
  rw [habsent "enabled" _ _ (by decide), hinterval, habsent "metrics_prefix" _ _ (by decide),
    habsent "map_service_name" _ _ (by decide), habsent "key_style" _ _ (by decide),
    habsent "isolate_stats_failures" _ _ (by decide),
    habsent "parallel_aggregation" _ _ (by decide), habsent "max_workers" _ _ (by decide), hknown,
    positive, real, andThen]
  split <;> rfl

theorem Settings.intervalGiven_valid_iff {v : Float} :
    (∃ s, Model.ofValue (intervalGiven v) = (.valid s : Outcome Settings)) ↔ 0.0 < v := by
  rw [ofValue_intervalGiven]
  by_cases hv : 0.0 < v
  · simp only [hv, iff_true]
    exact ⟨_, rfl⟩
  · simp [hv]

/-- The registry takes every interval that is not at most zero, for a collector that it has. -/
theorem Registry.setInterval_ok_iff {name : String} {v : Float} {r : Registry} :
    (∃ after, r.setInterval name v = .ok after) ↔ ¬ v ≤ 0.0 ∧ name ∈ r.names := by
  rw [setInterval]
  by_cases hv : v ≤ 0.0
  · simp [hv]
  · simp only [hv, not_false_eq_true, true_and]
    rw [← exists_collector_iff, if_neg not_false, change]
    cases r.collector name with
    | error e => simp
    | ok c => exact iff_of_true ⟨_, rfl⟩ ⟨c, rfl⟩

namespace Collector

/-- A collector as it is built from settings that keep their rules. -/
def Built (c : Collector) : Prop :=
  ∃ name settings, settings.Valid ∧ c = ofSettings name settings

theorem Built.interval_pos {c : Collector} (h : c.Built) : 0.0 < c.interval := by
  obtain ⟨name, settings, hvalid, rfl⟩ := h
  exact hvalid.interval

theorem Built.last_eq {c : Collector} (h : c.Built) : c.last = 0.0 := by
  obtain ⟨name, settings, -, rfl⟩ := h
  rfl

/-- No time is long enough for an interval that is no number. -/
theorem isDue_of_isNaN {c : Collector} (h : c.interval.isNaN = true) (now : Float) :
    c.isDue now = false := by
  rw [isDue, decide_eq_false (not_float_le_of_isNaN h _), Bool.and_false]

end Collector

namespace Roster

variable {σ : Type} {view : View σ}

/-- Nothing but a request for another interval changes an interval. -/
theorem interval_apply (r : Roster) (a : Action σ) (i : Nat) :
    ((r.apply view a).collectors i).interval = (r.collectors i).interval ∨
      ∃ name v, a = .setInterval name v ∧ ¬ v ≤ 0.0 ∧
        ((r.apply view a).collectors i).interval = v := by
  rw [collectors_apply]
  cases a with
  | register j => exact .inl rfl
  | unregister name => exact .inl rfl
  | setEnabled name enabled =>
    dsimp only
    split <;> exact .inl rfl
  | setInterval name v =>
    dsimp only
    split
    · case isTrue reached => exact .inr ⟨name, v, rfl, reached.1, rfl⟩
    · exact .inl rfl
  | setSource j source =>
    dsimp only
    split <;> exact .inl rfl
  | collectAll s readings => exact .inl rfl
  | collect j s due now => exact .inl rfl

/-- What holds of an interval, and of each one that is asked for and let pass, holds of it after all
actions. -/
theorem interval_after {P : Float → Prop} {r : Roster} {i : Nat} {actions : List (Action σ)}
    (hstart : P (r.collectors i).interval)
    (hset : ∀ name v, .setInterval name v ∈ actions → ¬ v ≤ 0.0 → P v) :
    P ((r.after view actions).collectors i).interval := by
  induction actions generalizing r with
  | nil => exact hstart
  | cons a rest ih =>
    refine ih (r := r.apply view a) ?_ fun name v h => hset name v (List.mem_cons_of_mem _ h)
    rcases interval_apply r a i with hkept | ⟨name, v, rfl, hv, hnew⟩
    · rwa [hkept]
    · rw [hnew]
      exact hset name v List.mem_cons_self hv

/-- Without such a request an interval stays what it is. -/
theorem interval_apply_of_ne {a : Action σ} (h : ∀ name v, a ≠ .setInterval name v) (r : Roster)
    (i : Nat) : ((r.apply view a).collectors i).interval = (r.collectors i).interval :=
  (interval_apply r a i).resolve_right fun ⟨name, v, ha, _⟩ => h name v ha

/-- A collector that keeps being such that it is not due at any reading of the clock completes no
collection. -/
theorem completions_eq_nil {P : Collector → Prop} {T : Float → Prop} {r : Roster} {i : Nat}
    {actions : List (Action σ)} (hdue : ∀ c time, P c → T time → c.isDue time = false)
    (hkept : ∀ a ∈ actions, ∀ r : Roster, r.completion? view i a = none → P (r.collectors i) →
      P ((r.apply view a).collectors i))
    (hstart : P (r.collectors i)) (hclock : ∀ time ∈ clock view r actions, T time) :
    completions view i r actions = [] := by
  induction actions generalizing r with
  | nil => rfl
  | cons a rest ih =>
    rw [clock, List.forall_mem_append] at hclock
    have hnone : r.completion? view i a = none := by
      refine Option.eq_none_iff_forall_ne_some.mpr fun done hdone => ?_
      have hread : done.due ∈ r.ticks view a :=
        (sublist_ticks view r i hdone).subset List.mem_cons_self
      have hearly := hdue _ _ hstart (hclock.1 _ hread)
      rw [(isDue_of_completion hdone).1] at hearly
      cases hearly
    rw [completions, hnone, Option.toList_none, List.nil_append]
    exact ih (fun b hb => hkept b (List.mem_cons_of_mem _ hb))
      (hkept a List.mem_cons_self r hnone hstart) hclock.2

/-- As long as its interval is no number, a collector completes no collection. -/
theorem completions_of_isNaN {r : Roster} {i : Nat} {actions : List (Action σ)}
    (h : (r.collectors i).interval.isNaN = true)
    (hset : ∀ name v, .setInterval name v ∉ actions) : completions view i r actions = [] := by
  refine completions_eq_nil (P := fun c => c.interval.isNaN = true) (T := fun _ => True)
    (fun c time hnan _ => Collector.isDue_of_isNaN hnan time) (fun a ha r _ hnan => ?_) h
    fun _ _ => trivial
  have hne (name : String) (v : Float) : a ≠ .setInterval name v := fun he => hset name v (he ▸ ha)
  rwa [interval_apply_of_ne hne]

/-- Whatever has been done to collectors that are built from settings, the registry takes an
interval for one that it has exactly when settings would take it, as long as it is a number; what is
no number it takes, though settings never do. Taking an interval is having it from then on, and
refusing one changes nothing. As long as only numbers are asked for, all intervals stay above zero.
In general each is above zero or no number; and if it is no number, the collector is not due at any
time and completes no collection until it gets another interval. -/
theorem intervals_guarded {r : Roster} (hbuilt : ∀ i, (r.collectors i).Built)
    (actions : List (Action σ)) :
    let now := r.after view actions
    (∀ name ∈ now.registry.names, ∀ v,
      (v.isNaN = false →
        ((∃ after, now.registry.setInterval name v = .ok after) ↔
          ∃ s, Model.ofValue (Settings.intervalGiven v) = (.valid s : Outcome Settings))) ∧
      (v.isNaN = true →
        (∃ after, now.registry.setInterval name v = .ok after) ∧
          ∀ s, Model.ofValue (Settings.intervalGiven v) ≠ (.valid s : Outcome Settings))) ∧
    (∀ i ∈ now.registered, ∀ v,
      ((now.apply view (.setInterval (now.collectors i).name v)).collectors i).interval =
        if v ≤ 0.0 then (now.collectors i).interval else v) ∧
    ((∀ name v, .setInterval name v ∈ actions → v.isNaN = false) →
      ∀ i ∈ now.registered, 0.0 < (now.collectors i).interval) ∧
    ∀ i ∈ now.registered, 0.0 < (now.collectors i).interval ∨
      (now.collectors i).interval.isNaN = true ∧
      (∀ time, (now.collectors i).isDue time = false) ∧
      ∀ further, (∀ name v, .setInterval name v ∉ further) →
        completions view i now further = [] := by
  intro now
  refine ⟨fun name hname v => ⟨fun hnumber => ?_, fun hnan => ⟨?_, ?_⟩⟩, fun i hi v => ?_,
    fun hnumbers i _ => ?_, fun i _ => ?_⟩
  · rw [Registry.setInterval_ok_iff, and_iff_left hname, Settings.intervalGiven_valid_iff,
      not_float_le_zero_iff, hnumber]
    exact or_iff_left Bool.false_ne_true
  · exact Registry.setInterval_ok_iff.mpr ⟨not_float_le_of_isNaN hnan _, hname⟩
  · refine fun s hs => ?_
    have hpos := Settings.intervalGiven_valid_iff.mp ⟨s, hs⟩
    rw [not_isNaN_of_float_pos hpos] at hnan
    cases hnan
  · rw [collectors_apply]
    by_cases hv : v ≤ 0.0
    · simp only [hv, not_true, false_and, if_false, if_true]
    · simp only [hv, not_false_eq_true, hi, and_self, if_true, if_false]
  · refine interval_after (P := fun v => 0.0 < v) (hbuilt i).interval_pos fun name v hv hpos => ?_
    refine (not_float_le_zero_iff.mp hpos).resolve_right fun hnan => ?_
    rw [hnumbers name v hv] at hnan
    cases hnan
  · refine (interval_after (P := fun v => 0.0 < v ∨ v.isNaN = true)
      (.inl (hbuilt i).interval_pos) fun _ v _ => not_float_le_zero_iff.mp).imp_right fun hnan => ?_
    exact ⟨hnan, Collector.isDue_of_isNaN hnan, fun further => completions_of_isNaN hnan⟩

/-- Collectors of maps with the settings that everybody starts from. -/
def kiosk : Roster where
  collectors _ := .ofSettings "map_info" {}

theorem built_kiosk (i : Nat) : (kiosk.collectors i).Built :=
  ⟨"map_info", {}, ⟨by decide +kernel, by decide, by decide, by decide⟩, rfl⟩

/-- One interval is taken and one refused; a further one would be taken. -/
theorem intervals_guarded_kiosk :
    let actions : List (Action Cluster) :=
      [.register 0, .setInterval "map_info" 30.0, .setInterval "map_info" 0.0]
    let now := kiosk.after Cluster.view actions
    (∀ i, (kiosk.collectors i).Built) ∧ 0.0 < (now.collectors 0).interval ∧
      ∃ after, now.registry.setInterval "map_info" 5.0 = .ok after := by
  intro actions now
  obtain ⟨hguards, -, hpositive, -⟩ :=
    @intervals_guarded Cluster Cluster.view kiosk built_kiosk actions
  have hregistered : (0 : Nat) ∈ now.registered := by
    rw [show now.registered = [0] by with_unfolding_all rfl]
    exact List.mem_singleton_self 0
  have hname : "map_info" ∈ now.registry.names := by
    rw [show now.registry.names = ["map_info"] by with_unfolding_all rfl]
    exact List.mem_singleton_self _
  refine ⟨built_kiosk, hpositive (fun name v hv => ?_) 0 hregistered, ?_⟩
  · simp only [actions, List.mem_cons, List.not_mem_nil, or_false, reduceCtorEq, false_or,
      Action.setInterval.injEq] at hv
    rcases hv with ⟨-, rfl⟩ | ⟨-, rfl⟩ <;> decide +kernel
  · exact ((hguards "map_info" hname 5.0).1 (by decide +kernel)).mpr
      (Settings.intervalGiven_valid_iff.mpr (by decide +kernel))

/-- What is no number becomes the interval of a collector, which the settings would not let it
be. -/
theorem interval_notANumber :
    let now := kiosk.after Cluster.view [.register 0, .setInterval "map_info" Number.notANumber]
    (∀ i, (kiosk.collectors i).Built) ∧ 0 ∈ now.registered ∧
      (∃ after, now.registry.setInterval "map_info" Number.notANumber = .ok after) ∧
      (∀ s, Model.ofValue (Settings.intervalGiven Number.notANumber) ≠
        (.valid s : Outcome Settings)) ∧
      ¬ 0.0 < (now.collectors 0).interval := by
  intro now
  have hnan : Number.notANumber.isNaN = true := by decide +kernel
  have hpos : ¬ 0.0 < Number.notANumber := by decide +kernel
  have hregistered : now.registered = [0] := by with_unfolding_all rfl
  have hinterval : (now.collectors 0).interval = Number.notANumber := by with_unfolding_all rfl
  have hname : now.registry.names = ["map_info"] := by with_unfolding_all rfl
  refine ⟨built_kiosk, hregistered ▸ List.mem_singleton_self 0, ?_, fun s hs => ?_,
    hinterval ▸ hpos⟩
  · refine Registry.setInterval_ok_iff.mpr ⟨not_float_le_of_isNaN hnan _, ?_⟩
    rw [hname]
    exact List.mem_singleton_self _
  · exact hpos (Settings.intervalGiven_valid_iff.mp ⟨s, hs⟩)

end Roster

end MapMetrics
