import MapMetrics.Proofs.Cluster.Frame
import MapMetrics.Proofs.Query.Transcript

/-!
# Clusters that are shared

While a query runs, other clients may work on the cluster. Each read is atomic, so that their
operations fall between the reads: before each of them takes place what the others have done in the
meantime, which may be any number of operations. Every answer is then that of a cluster as some of
these operations have left it. Where no failures are injected, this decides about the shape of all
answers, and about the answers for names that nobody else touches it decides altogether.
-/

namespace MapMetrics

/-- A cluster, and the operations of others that take place before each of the reads to come. -/
structure SharedCluster where
  /-- The cluster. -/
  cluster : Cluster
  /-- The operations before the next read, those before the one after it, and so on. -/
  pending : List (List Operation) := []

namespace SharedCluster

/-- What the others do before a read. -/
def proceed (s : SharedCluster) : SharedCluster :=
  match s.pending with
  | [] => s
  | ops :: rest => ⟨ops.foldl Cluster.apply s.cluster, rest⟩

/-- A shared cluster answers from what it holds after the others have proceeded. -/
def view : View SharedCluster where
  objects s := (s.proceed.cluster.distributedObjects, s.proceed)
  config name s := (s.proceed.cluster.mapConfig name, s.proceed)
  stats name s := (s.proceed.cluster.mapStats name, s.proceed)

end SharedCluster

/-- The second cluster is the first one as some of these operations have left it. -/
def Cluster.Leaves (ops : List Operation) (c d : Cluster) : Prop :=
  ∃ done : List Operation, (∀ op ∈ done, op ∈ ops) ∧ d = done.foldl Cluster.apply c

namespace SharedCluster

/-- Some of the operations have been done, and the others are still to come. -/
structure Within (ops : List Operation) (c : Cluster) (s : SharedCluster) : Prop where
  /-- What has been done. -/
  done : Cluster.Leaves ops c s.cluster
  /-- What is to come. -/
  pending : ∀ op ∈ s.pending.flatten, op ∈ ops

theorem Within.proceed {ops : List Operation} {c : Cluster} {s : SharedCluster}
    (h : Within ops c s) : Within ops c s.proceed := by
  obtain ⟨d, pending⟩ := s
  obtain ⟨⟨done, hdone, hd⟩, hpending⟩ := h
  cases pending with
  | nil => exact ⟨⟨done, hdone, hd⟩, hpending⟩
  | cons next rest =>
    rw [List.flatten_cons, List.forall_mem_append] at hpending
    obtain ⟨hnext, hrest⟩ := hpending
    refine ⟨⟨done ++ next, List.forall_mem_append.mpr ⟨hdone, hnext⟩, ?_⟩, hrest⟩
    rw [List.foldl_append]
    exact congrArg (next.foldl Cluster.apply) hd

/-- Every answer of a shared cluster is that of the cluster as some of the operations have left
it. -/
theorem answeredBy_of_mem_transcript {α : Type} {c : Cluster} {pending : List (List Operation)}
    {q : Query α} {e : Exchange} (h : e ∈ q.transcript view ⟨c, pending⟩) :
    ∃ d, Cluster.Leaves pending.flatten c d ∧ e.AnsweredBy d.answers := by
  have hanswered {s : SharedCluster} (hs : Within pending.flatten c s) {e : Exchange}
      (he : e.AnsweredBy s.proceed.cluster.answers) :
      (∃ d, Cluster.Leaves pending.flatten c d ∧ e.AnsweredBy d.answers) ∧
        Within pending.flatten c s.proceed :=
    ⟨⟨_, hs.proceed.done, he⟩, hs.proceed⟩
  have hvouches : view.Vouches (Within pending.flatten c) fun e =>
      ∃ d, Cluster.Leaves pending.flatten c d ∧ e.AnsweredBy d.answers :=
    ⟨fun s hs => hanswered hs rfl, fun name s hs => hanswered hs rfl,
      fun name s hs => hanswered hs rfl⟩
  have hstart : Within pending.flatten c ⟨c, pending⟩ :=
    ⟨⟨[], List.forall_mem_nil _, rfl⟩, fun op hop => hop⟩
  exact Query.forall_transcript hvouches q hstart e h

/-- Where the others do nothing, a shared cluster answers as the cluster does. -/
theorem view_gives (c : Cluster) : view.Gives ⟨c, []⟩ c.answers :=
  ⟨rfl, fun _ => rfl, fun _ => rfl⟩

end SharedCluster

/-- What is held under a name that none of the operations is about is the same throughout. -/
theorem Cluster.Directory.alike_of_leaves {c d : Cluster} {services : Table String}
    (h : c.Directory services.texts) {ops : List Operation} (hd : Cluster.Leaves ops c d)
    {name : String} (hname : ∀ op ∈ ops, op.target? ≠ some name) : Cluster.Alike name c d := by
  obtain ⟨done, hdone, rfl⟩ := hd
  exact h.alike_foldl fun op hop => hname op (hdone op hop)

/-! ## Answers without injected failures -/

/-- An answer as a cluster without injected failures gives it: the objects are enumerated, each name
once; a lookup finds the configuration of the name or none, or the map has gone; and counters that
are missing can be done without. -/
def Exchange.Orderly : Exchange → Prop
  | objects answer => ∃ infos, answer = .ok infos ∧ (infos.map (·.name)).Nodup
  | config name answer =>
    (∃ found, answer = .ok found ∧ ∀ config, found = some config → config.name = name) ∨
      ∃ gone message, answer = .error (.notFound gone message)
  | stats _ answer => ∀ f, answer = .error f → f.isIsolable = true

namespace Cluster

/-- The answers of a cluster without injected failures are orderly. -/
theorem orderly_of_answeredBy {c : Cluster} (hs : c.Sound) {services : Table String}
    (hdir : c.Directory services.texts) (hu : c.Unfailing) {e : Exchange}
    (h : e.AnsweredBy c.answers) : e.Orderly := by
  cases e with
  | objects answer =>
    obtain ⟨infos, hd⟩ := hdir.exists_distributedObjects_iff.mpr hu.enumeration
    have hnames : infos.map (·.name) = services.texts.names :=
      Identify.names (hdir.objects ▸ (distributedObjects_eq_ok_iff.mp hd).2)
    exact ⟨infos, h.trans hd, hnames ▸ hdir.distinct⟩
  | config name answer =>
    have hanswer : answer = c.mapConfig name := h
    rw [mapConfig] at hanswer
    by_cases hl : c.lists name = true
    · rw [if_pos hl] at hanswer
      exact .inl ⟨_, hanswer, fun config hc => hs.named hc⟩
    · rw [if_neg hl] at hanswer
      exact .inr ⟨_, _, hanswer⟩
  | stats name answer =>
    intro f hf
    have hanswer : answer = c.mapStats name := h
    rw [mapStats, hu.stats] at hanswer
    cases hc : c.stats.get? name with
    | some stats =>
      rw [hanswer] at hf
      simp only [Table.get?_nil, hc] at hf
      cases hf
    | none =>
      rw [hanswer] at hf
      simp only [Table.get?_nil, hc] at hf
      cases hf
      rfl

/-- What a lookup finds in a cluster is the configuration that resolves. -/
theorem found?_mapConfig (c : Cluster) (name : String) :
    Exchange.found? (.config name (c.mapConfig name)) = c.resolved? name := by
  rw [resolved?]
  cases c.mapConfig name <;> rfl

end Cluster

namespace SharedCluster

variable {service : String} {history : List Operation} {pending : List (List Operation)}

/-- No failure comes from operations that inject none, and the cluster is still that of a
history. -/
theorem unfailing_of_leaves (hstart : (Cluster.after service history).Unfailing)
    (hpending : ∀ op ∈ pending.flatten, op.injected? = none) {d : Cluster}
    (hd : Cluster.Leaves pending.flatten (Cluster.after service history) d) :
    d.Sound ∧ (∃ services : Table String, d.Directory services.texts) ∧ d.Unfailing := by
  obtain ⟨done, hdone, rfl⟩ := hd
  refine ⟨?_, ?_, hstart.foldl_apply fun op hop => hpending op (hdone op hop)⟩
  · rw [Cluster.foldl_apply_after]
    exact Cluster.sound_after service _
  · rw [Cluster.foldl_apply_after]
    exact Cluster.services_after service _

/-- While others inject no failures, all answers are orderly. -/
theorem orderly_of_mem_transcript {α : Type} {q : Query α} {e : Exchange}
    (hstart : (Cluster.after service history).Unfailing)
    (hpending : ∀ op ∈ pending.flatten, op.injected? = none)
    (he : e ∈ q.transcript view ⟨Cluster.after service history, pending⟩) : e.Orderly := by
  obtain ⟨d, hd, hanswer⟩ := answeredBy_of_mem_transcript he
  obtain ⟨hs, ⟨services, hdir⟩, hu⟩ := unfailing_of_leaves hstart hpending hd
  exact Cluster.orderly_of_answeredBy hs hdir hu hanswer

/-- A map that is indexed at first and that nobody else touches. -/
structure Untouched (c : Cluster) (pending : List (List Operation)) (service : String)
    (config : MapConfig) : Prop where
  /-- No operation is about it. -/
  alone : ∀ op ∈ pending.flatten, op.target? ≠ some config.name
  /-- It is enumerated under the service. -/
  listed : config.name ∈ c.namesOf service
  /-- Its configuration resolves. -/
  resolved : c.resolved? config.name = some config

variable {α : Type} {q : Query α} {maps : String} {config : MapConfig}

/-- A map that nobody else touches is enumerated. -/
theorem Untouched.mem_namesUnder {infos : List ObjectInfo}
    (h : Untouched (Cluster.after service history) pending maps config)
    (hstart : (Cluster.after service history).Unfailing)
    (hpending : ∀ op ∈ pending.flatten, op.injected? = none)
    (he : .objects (.ok infos) ∈ q.transcript view ⟨Cluster.after service history, pending⟩) :
    config.name ∈ ObjectInfo.namesUnder maps infos := by
  obtain ⟨d, hd, hanswer⟩ := answeredBy_of_mem_transcript he
  have hobjects : d.distributedObjects = .ok infos := hanswer.symm
  obtain ⟨-, ⟨others, hdd⟩, hu⟩ := unfailing_of_leaves hstart hpending hd
  obtain ⟨services, hdir⟩ := Cluster.services_after service history
  have hmem := ((hdir.alike_of_leaves hd h.alone).mem_namesOf_iff hdir hdd hstart.enumeration
    hu.enumeration).mpr h.listed
  rw [Cluster.namesOf, hobjects] at hmem
  exact hmem

/-- A map that nobody else touches is found as it is. -/
theorem Untouched.found?_eq {answer : Except Failure (Option MapConfig)}
    (h : Untouched (Cluster.after service history) pending maps config)
    (he : .config config.name answer ∈
      q.transcript view ⟨Cluster.after service history, pending⟩) :
    Exchange.found? (.config config.name answer) = some config := by
  obtain ⟨d, hd, hanswer⟩ := answeredBy_of_mem_transcript he
  obtain ⟨services, hdir⟩ := Cluster.services_after service history
  have hlookup : answer = d.mapConfig config.name := hanswer
  rw [hlookup, Cluster.found?_mapConfig, (hdir.alike_of_leaves hd h.alone).resolved?, h.resolved]

/-- The counters of a map that nobody else touches are read as they are. -/
theorem Untouched.stats_eq {answer : Except Failure MapStats}
    (h : Untouched (Cluster.after service history) pending maps config)
    (hstart : (Cluster.after service history).Unfailing)
    (he : .stats config.name answer ∈
      q.transcript view ⟨Cluster.after service history, pending⟩) :
    answer = .ok ((Cluster.after service history).countersOf config.name) := by
  obtain ⟨d, hd, hanswer⟩ := answeredBy_of_mem_transcript he
  obtain ⟨services, hdir⟩ := Cluster.services_after service history
  have hread := (Cluster.sound_after service history).mapStats_of_resolved h.resolved
  rw [hstart.stats] at hread
  have hfetch : answer = d.mapStats config.name := hanswer
  rw [hfetch, (hdir.alike_of_leaves hd h.alone).mapStats, hread]
  rfl

end SharedCluster

end MapMetrics
