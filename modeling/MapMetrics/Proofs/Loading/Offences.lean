import MapMetrics.Proofs.Cluster.Contents
import MapMetrics.Proofs.Loading.Snapshot
import MapMetrics.Proofs.Traversal

/-!
# What makes a snapshot malformed

A snapshot is looked at place by place: the section of maps as a whole, its entries, the section of
other objects as a whole, and its entries. At every place it is said, from the shape of the value
that stands there alone, whether it fits and what is wrong with it. Loading fails exactly when some
place does not fit, with what is wrong at the first of them; a document of any other shape is loaded
as the maps and objects that its entries describe, registered in their order.
-/

namespace MapMetrics.Snapshot

open Value

/-! ## Places -/

/-- The places of a snapshot. -/
inductive Place where
  /-- The section of maps. -/
  | maps
  /-- An entry of the section of maps, by its position. -/
  | map (i : Nat)
  /-- The section of other objects. -/
  | objects
  /-- An entry of the section of other objects, by its position. -/
  | object (i : Nat)
  deriving DecidableEq, Repr

/-- The order in which places are looked at. -/
def Place.Before : Place → Place → Prop
  | .maps, .maps => False
  | .maps, _ => True
  | .map i, .map j => i < j
  | .map _, .objects => True
  | .map _, .object _ => True
  | .objects, .object _ => True
  | .object i, .object j => i < j
  | _, _ => False

/-- Values that have elements: lists and what will do for one, mappings, texts and octets. -/
def HasElements (v : Value) : Prop :=
  match v.opened with
  | .list _ | .pair _ _ | .set _ | .mapping _ | .text _ | .bytes _ => True
  | _ => False

/-- What is wrong with asking for a named part of a value that is no mapping. -/
def subscriptError (v : Value) : String :=
  match v.opened with
  | .text _ => "string indices must be integers, not 'str'"
  | .bytes _ => "byte indices must be integers or slices, not str"
  | .list _ => "list indices must be integers or slices, not str"
  | .pair _ _ => "tuple indices must be integers or slices, not str"
  | _ => "'" ++ v.typeName ++ "' object is not subscriptable"

/-- What a section lists, or what is wrong with it. -/
inductive Lists (name : String) (entries : List (Value × Value)) :
    Except Mishap (List Value) → Prop where
  /-- It is absent. -/
  | absent (missing : field? name entries = none) : Lists name entries (.ok [])
  /-- It is there but not filled. -/
  | unfilled {v : Value} (given : field? name entries = some v) (unfilled : v.isFilled = false) :
      Lists name entries (.ok [])
  /-- It is filled and has elements. -/
  | filled {v : Value} {es : List Value} (given : field? name entries = some v)
      (filled : v.isFilled = true) (listed : elements v = .ok es) : Lists name entries (.ok es)
  /-- It is filled and has no elements. -/
  | scalar {v : Value} (given : field? name entries = some v) (filled : v.isFilled = true)
      (scalar : ¬ HasElements v) :
      Lists name entries (.error (.kind ("'" ++ v.typeName ++ "' object is not iterable")))

/-- The counters of an entry, none if they are absent or not filled. -/
def countersIn (fields : List (Value × Value)) : Value :=
  ((field? "stats" fields).getD .null).orElse (.mapping [])

/-- The map that an entry describes, or what is wrong with it. -/
inductive DescribesMap (entry : Value) : Except Mishap (MapConfig × MapStats) → Prop where
  /-- The entry is no mapping. -/
  | unsubscriptable (scalar : ∀ fields, entry.opened ≠ .mapping fields) :
      DescribesMap entry (.error (.kind (subscriptError entry)))
  /-- There is no configuration. -/
  | configMissing {fields : List (Value × Value)} (opened : entry.opened = .mapping fields)
      (missing : field? "config" fields = none) :
      DescribesMap entry (.error (.missingKey "config"))
  /-- The configuration is not valid. -/
  | configInvalid {fields : List (Value × Value)} {v : Value} {first : Problem}
      {rest : List Problem} (opened : entry.opened = .mapping fields)
      (given : field? "config" fields = some v)
      (refused : (Model.ofValue v : Outcome MapConfig) = .invalid first rest) :
      DescribesMap entry (.error (.invalid "MapConfig" first rest))
  /-- The configuration is valid, and the counters are not. -/
  | statsInvalid {fields : List (Value × Value)} {v : Value} {config : MapConfig}
      {first : Problem} {rest : List Problem} (opened : entry.opened = .mapping fields)
      (given : field? "config" fields = some v) (read : Model.ofValue v = .valid config)
      (refused : (Model.ofValue (countersIn fields) : Outcome MapStats) = .invalid first rest) :
      DescribesMap entry (.error (.invalid "LocalMapStats" first rest))
  /-- Both are valid. -/
  | map {fields : List (Value × Value)} {v : Value} {config : MapConfig} {stats : MapStats}
      (opened : entry.opened = .mapping fields) (given : field? "config" fields = some v)
      (read : Model.ofValue v = .valid config)
      (counted : Model.ofValue (countersIn fields) = .valid stats) :
      DescribesMap entry (.ok (config, stats))

/-- The object that an entry describes with its service, or what is wrong with it. -/
inductive DescribesObject (entry : Value) : Except Mishap (Value × Value) → Prop where
  /-- The entry is no mapping. -/
  | unsubscriptable (scalar : ∀ fields, entry.opened ≠ .mapping fields) :
      DescribesObject entry (.error (.kind (subscriptError entry)))
  /-- There is no name. -/
  | nameMissing {fields : List (Value × Value)} (opened : entry.opened = .mapping fields)
      (missing : field? "name" fields = none) :
      DescribesObject entry (.error (.missingKey "name"))
  /-- There is a name, and no service. -/
  | serviceMissing {fields : List (Value × Value)} {name : Value}
      (opened : entry.opened = .mapping fields) (named : field? "name" fields = some name)
      (missing : field? "service_name" fields = none) :
      DescribesObject entry (.error (.missingKey "service_name"))
  /-- Both are there, and the name is no key. -/
  | unhashable {fields : List (Value × Value)} {name service : Value}
      (opened : entry.opened = .mapping fields) (named : field? "name" fields = some name)
      (served : field? "service_name" fields = some service) (parted : name.isKey = false) :
      DescribesObject entry (.error (.kind ("unhashable type: '" ++ name.typeName ++ "'")))
  /-- Both are there. -/
  | object {fields : List (Value × Value)} {name service : Value}
      (opened : entry.opened = .mapping fields) (named : field? "name" fields = some name)
      (served : field? "service_name" fields = some service) (key : name.isKey = true) :
      DescribesObject entry (.ok (name, service))

/-- A place does not fit, and this is what is wrong with it. -/
inductive Offends (entries : List (Value × Value)) : Place → Mishap → Prop where
  /-- The maps cannot be gone through. -/
  | maps {m : Mishap} (wrong : Lists "maps" entries (.error m)) : Offends entries .maps m
  /-- A map is wrong. -/
  | map {es : List Value} {i : Nat} {entry : Value} {m : Mishap}
      (listed : Lists "maps" entries (.ok es)) (stands : es[i]? = some entry)
      (wrong : DescribesMap entry (.error m)) : Offends entries (.map i) m
  /-- The other objects cannot be gone through. -/
  | objects {m : Mishap} (wrong : Lists "objects" entries (.error m)) :
      Offends entries .objects m
  /-- Another object is wrong. -/
  | object {es : List Value} {i : Nat} {entry : Value} {m : Mishap}
      (listed : Lists "objects" entries (.ok es)) (stands : es[i]? = some entry)
      (wrong : DescribesObject entry (.error m)) : Offends entries (.object i) m

/-- A place does not fit, and all places before it do. -/
structure OffendsFirst (entries : List (Value × Value)) (place : Place) (m : Mishap) : Prop where
  /-- The place does not fit. -/
  offends : Offends entries place m
  /-- The places before it do. -/
  first : ∀ earlier other, earlier.Before place → ¬ Offends entries earlier other

/-- The cluster that comes of registering the maps of the entries and then their objects. -/
def Registers (entries : List (Value × Value)) (service : String) (c : Cluster) : Prop :=
  ∃ mapEntries objectEntries maps objects,
    Lists "maps" entries (.ok mapEntries) ∧ Lists "objects" entries (.ok objectEntries) ∧
    List.Forall₂ (fun entry m => DescribesMap entry (.ok m)) mapEntries maps ∧
    List.Forall₂ (fun entry o => DescribesObject entry (.ok o)) objectEntries objects ∧
    objects.foldlM (fun (c : Cluster) o => c.addObject o.1 o.2)
      (maps.foldl (fun c m => Cluster.addMap m.1 m.2 c) { mapService := service }) = .ok c

/-! ## Reading and describing -/

/-- A relation that holds of some outcome, and of no other than a function has, is its graph. -/
private theorem graph_iff {α β : Type} {R : α → β → Prop} {f : α → β}
    (sound : ∀ a b, R a b → f a = b) (total : ∀ a, ∃ b, R a b) (a : α) (b : β) :
    R a b ↔ f a = b := by
  refine ⟨sound a b, fun h => ?_⟩
  obtain ⟨b', hb⟩ := total a
  rw [← h, sound a b' hb]
  exact hb

theorem elements_error_iff {v : Value} {m : Mishap} : elements v = .error m ↔
    ¬ HasElements v ∧ m = .kind ("'" ++ v.typeName ++ "' object is not iterable") := by
  rw [elements, HasElements]
  cases v.opened <;> simp [eq_comm]

/-- A section lists what loading finds in it. -/
theorem lists_iff (name : String) (entries : List (Value × Value))
    (x : Except Mishap (List Value)) :
    Lists name entries x ↔ sectionElements name entries = x := by
  refine graph_iff (f := sectionElements name) (R := Lists name) (fun entries x h => ?_)
    (fun entries => ?_) entries x
  · cases h with
    | absent missing => rw [sectionElements, missing]; rfl
    | unfilled given unfilled => rw [sectionElements, given]; simp [orElse, unfilled]; rfl
    | filled given filled listed =>
      rw [sectionElements, given]
      simpa [orElse, filled] using listed
    | scalar given filled scalar =>
      rw [sectionElements, given]
      simpa [orElse, filled] using elements_error_iff.mpr ⟨scalar, rfl⟩
  · cases given : field? name entries with
    | none => exact ⟨_, .absent given⟩
    | some v =>
      cases filled : v.isFilled with
      | false => exact ⟨_, .unfilled given filled⟩
      | true =>
        cases listed : elements v with
        | ok es => exact ⟨_, .filled given filled listed⟩
        | error m => exact ⟨_, .scalar given filled (elements_error_iff.mp listed).1⟩

/-- A value that is no mapping has no named parts. -/
theorem part_of_not_mapping {v : Value} (h : ∀ fields, v.opened ≠ .mapping fields) (name : String) :
    part name v = .error (.kind (subscriptError v)) := by
  rw [part, subscriptError]
  cases hv : v.opened with
  | mapping fields => exact absurd hv (h fields)
  | _ => rfl

theorem part_of_mapping {v : Value} {fields : List (Value × Value)} (h : v.opened = .mapping fields)
    (name : String) : part name v = match field? name fields with
      | some found => .ok found
      | none => .error (.missingKey name) := by
  unfold part
  split
  · case h_1 fields' opened =>
    obtain rfl := Value.mapping.inj (opened.symm.trans h)
    rfl
  all_goals simp_all

/-- An entry describes the map that loading finds in it. -/
theorem describesMap_iff (entry : Value) (x : Except Mishap (MapConfig × MapStats)) :
    DescribesMap entry x ↔ mapIn entry = x := by
  have hcounters {v : Value} {fields : List (Value × Value)} (h : v.opened = .mapping fields) :
      statsPart v = countersIn fields := by
    rw [statsPart, h]
    rfl
  refine graph_iff (fun entry x h => ?_) (fun entry => ?_) entry x
  · cases h with
    | unsubscriptable scalar => rw [mapIn, part_of_not_mapping scalar]; rfl
    | configMissing opened missing => rw [mapIn, part_of_mapping opened, missing]; rfl
    | configInvalid opened given refused =>
      simp only [mapIn, part_of_mapping opened, given, recordIn, refused, bind, Except.bind]
      rfl
    | statsInvalid opened given read refused =>
      simp only [mapIn, part_of_mapping opened, given, recordIn, read, hcounters opened, refused,
        bind, Except.bind]
      rfl
    | map opened given read counted =>
      simp only [mapIn, part_of_mapping opened, given, recordIn, read, hcounters opened, counted,
        bind, Except.bind]
      rfl
  · by_cases hm : ∃ fields, entry.opened = .mapping fields
    · obtain ⟨fields, opened⟩ := hm
      cases given : field? "config" fields with
      | none => exact ⟨_, .configMissing opened given⟩
      | some v =>
        cases read : (Model.ofValue v : Outcome MapConfig) with
        | invalid first rest => exact ⟨_, .configInvalid opened given read⟩
        | valid config =>
          cases counted : (Model.ofValue (countersIn fields) : Outcome MapStats) with
          | invalid first rest => exact ⟨_, .statsInvalid opened given read counted⟩
          | valid stats => exact ⟨_, .map opened given read counted⟩
    · exact ⟨_, .unsubscriptable (not_exists.mp hm)⟩

/-- An entry describes the object that loading finds in it. -/
theorem describesObject_iff (entry : Value) (x : Except Mishap (Value × Value)) :
    DescribesObject entry x ↔ objectIn entry = x := by
  refine graph_iff (fun entry x h => ?_) (fun entry => ?_) entry x
  · cases h with
    | unsubscriptable scalar => rw [objectIn, part_of_not_mapping scalar]; rfl
    | nameMissing opened missing => rw [objectIn, part_of_mapping opened, missing]; rfl
    | serviceMissing opened named missing =>
      simp only [objectIn, part_of_mapping opened, named, missing, bind, Except.bind]
    | unhashable opened named served parted =>
      simp only [objectIn, part_of_mapping opened, named, served, parted, bind, Except.bind]
      rfl
    | object opened named served key =>
      simp only [objectIn, part_of_mapping opened, named, served, key, bind, Except.bind]
      rfl
  · by_cases hm : ∃ fields, entry.opened = .mapping fields
    · obtain ⟨fields, opened⟩ := hm
      cases named : field? "name" fields with
      | none => exact ⟨_, .nameMissing opened named⟩
      | some name =>
        cases served : field? "service_name" fields with
        | none => exact ⟨_, .serviceMissing opened named served⟩
        | some service =>
          cases key : name.isKey with
          | false => exact ⟨_, .unhashable opened named served key⟩
          | true => exact ⟨_, .object opened named served key⟩
    · exact ⟨_, .unsubscriptable (not_exists.mp hm)⟩

/-! ## The first place -/

/-- Of two places one comes before the other, unless they are the same. -/
theorem Place.before_or_eq_or_before (p q : Place) : p.Before q ∨ p = q ∨ q.Before p := by
  cases p <;> cases q <;> simp only [Before, Place.map.injEq, Place.object.injEq, true_or, or_true,
    reduceCtorEq]
  all_goals omega

variable {entries : List (Value × Value)}

/-- What is wrong at a place is one thing. -/
theorem Offends.unique {place : Place} {m m' : Mishap} (h : Offends entries place m)
    (h' : Offends entries place m') : m = m' := by
  cases h with
  | maps wrong =>
    cases h' with
    | maps wrong' =>
      rw [lists_iff] at wrong wrong'
      exact Except.error.inj (wrong.symm.trans wrong')
  | map listed stands wrong =>
    cases h' with
    | map listed' stands' wrong' =>
      rw [lists_iff] at listed listed'
      obtain rfl := Except.ok.inj (listed.symm.trans listed')
      obtain rfl := Option.some.inj (stands.symm.trans stands')
      rw [describesMap_iff] at wrong wrong'
      exact Except.error.inj (wrong.symm.trans wrong')
  | objects wrong =>
    cases h' with
    | objects wrong' =>
      rw [lists_iff] at wrong wrong'
      exact Except.error.inj (wrong.symm.trans wrong')
  | object listed stands wrong =>
    cases h' with
    | object listed' stands' wrong' =>
      rw [lists_iff] at listed listed'
      obtain rfl := Except.ok.inj (listed.symm.trans listed')
      obtain rfl := Option.some.inj (stands.symm.trans stands')
      rw [describesObject_iff] at wrong wrong'
      exact Except.error.inj (wrong.symm.trans wrong')

/-- There is at most one first place that does not fit. -/
theorem OffendsFirst.unique {p q : Place} {m m' : Mishap} (h : OffendsFirst entries p m)
    (h' : OffendsFirst entries q m') : m = m' := by
  rcases p.before_or_eq_or_before q with hb | rfl | hb
  · exact absurd h.offends (h'.first p m hb)
  · exact h.offends.unique h'.offends
  · exact absurd h'.offends (h.first q m' hb)

/-- A section that can be gone through is no place that does not fit. -/
theorem not_offends_maps {es : List Value} (h : sectionElements "maps" entries = .ok es)
    (m : Mishap) : ¬ Offends entries .maps m := by
  rintro ⟨wrong⟩
  rw [lists_iff, h] at wrong
  cases wrong

theorem not_offends_objects {es : List Value} (h : sectionElements "objects" entries = .ok es)
    (m : Mishap) : ¬ Offends entries .objects m := by
  intro offends
  cases offends with
  | objects wrong =>
    rw [lists_iff, h] at wrong
    cases wrong

/-- An entry that describes a map is no place that does not fit. -/
theorem not_offends_map {es : List Value} {i : Nat} (h : sectionElements "maps" entries = .ok es)
    (hread : ∀ entry, es[i]? = some entry → ∃ found, mapIn entry = .ok found) (m : Mishap) :
    ¬ Offends entries (.map i) m := by
  intro offends
  cases offends with
  | map listed stands wrong =>
    rw [lists_iff] at listed
    obtain rfl := Except.ok.inj (h.symm.trans listed)
    obtain ⟨found, hfound⟩ := hread _ stands
    rw [describesMap_iff, hfound] at wrong
    cases wrong

/-- An entry that describes an object is no place that does not fit. -/
theorem not_offends_object {es : List Value} {i : Nat}
    (h : sectionElements "objects" entries = .ok es)
    (hread : ∀ entry, es[i]? = some entry → ∃ found, objectIn entry = .ok found) (m : Mishap) :
    ¬ Offends entries (.object i) m := by
  intro offends
  cases offends with
  | object listed stands wrong =>
    rw [lists_iff] at listed
    obtain rfl := Except.ok.inj (h.symm.trans listed)
    obtain ⟨found, hfound⟩ := hread _ stands
    rw [describesObject_iff, hfound] at wrong
    cases wrong

/-- Sections that are read have no place that does not fit. -/
theorem not_offends_of_contentsIn {k : Contents} (h : contentsIn entries = .ok k) (place : Place)
    (m : Mishap) : ¬ Offends entries place m := by
  rw [contentsIn] at h
  cases hmaps : sectionElements "maps" entries with
  | error m => rw [hmaps] at h; cases h
  | ok mapEntries =>
    cases hread : mapEntries.mapM mapIn with
    | error m => simp [hmaps, hread, bind, Except.bind] at h
    | ok maps =>
      cases hobjects : sectionElements "objects" entries with
      | error m => simp [hmaps, hread, hobjects, bind, Except.bind] at h
      | ok objectEntries =>
        cases hfound : objectEntries.mapM objectIn with
        | error m => simp [hmaps, hread, hobjects, hfound, bind, Except.bind] at h
        | ok objects =>
          cases place with
          | maps => exact not_offends_maps hmaps m
          | map i => exact not_offends_map hmaps (exists_ok_of_mapM hread i) m
          | objects => exact not_offends_objects hobjects m
          | object i => exact not_offends_object hobjects (exists_ok_of_mapM hfound i) m

/-- Reading the sections fails at the first place that does not fit. -/
theorem exists_offendsFirst_of_contentsIn {m : Mishap} (h : contentsIn entries = .error m) :
    ∃ place, OffendsFirst entries place m := by
  rw [contentsIn] at h
  cases hmaps : sectionElements "maps" entries with
  | error m' =>
    rw [hmaps] at h
    obtain rfl := Except.error.inj h
    refine ⟨.maps, .maps ((lists_iff _ _ _).mpr hmaps), fun earlier other hb => ?_⟩
    cases earlier <;> exact hb.elim
  | ok mapEntries =>
    have hlisted := (lists_iff _ _ _).mpr hmaps
    cases hread : mapEntries.mapM mapIn with
    | error m' =>
      simp only [hmaps, hread, bind, Except.bind, Except.error.injEq] at h
      subst h
      obtain ⟨i, entry, hi, hwrong, hbefore⟩ := exists_of_mapM_error hread
      refine ⟨.map i, .map hlisted hi ((describesMap_iff _ _).mpr hwrong),
        fun earlier other hb => ?_⟩
      cases earlier with
      | maps => exact not_offends_maps hmaps other
      | map j => exact not_offends_map hmaps (hbefore j hb) other
      | objects => exact hb.elim
      | object j => exact hb.elim
    | ok maps =>
      cases hobjects : sectionElements "objects" entries with
      | error m' =>
        simp only [hmaps, hread, hobjects, bind, Except.bind, Except.error.injEq] at h
        subst h
        refine ⟨.objects, .objects ((lists_iff _ _ _).mpr hobjects), fun earlier other hb => ?_⟩
        cases earlier with
        | maps => exact not_offends_maps hmaps other
        | map j => exact not_offends_map hmaps (exists_ok_of_mapM hread j) other
        | objects => exact hb.elim
        | object j => exact hb.elim
      | ok objectEntries =>
        have hlisted' := (lists_iff _ _ _).mpr hobjects
        cases hfound : objectEntries.mapM objectIn with
        | ok objects => simp [hmaps, hread, hobjects, hfound, bind, Except.bind, pure,
            Except.pure] at h
        | error m' =>
          simp only [hmaps, hread, hobjects, hfound, bind, Except.bind, Except.error.injEq] at h
          subst h
          obtain ⟨i, entry, hi, hwrong, hbefore⟩ := exists_of_mapM_error hfound
          refine ⟨.object i, .object hlisted' hi ((describesObject_iff _ _).mpr hwrong),
            fun earlier other hb => ?_⟩
          cases earlier with
          | maps => exact not_offends_maps hmaps other
          | map j => exact not_offends_map hmaps (exists_ok_of_mapM hread j) other
          | objects => exact not_offends_objects hobjects other
          | object j => exact not_offends_object hobjects (hbefore j hb) other

/-! ## What is registered -/

/-- The objects that entries describe have names that are keys. -/
theorem isKey_of_objectIn {entry : Value} {o : Value × Value} (h : objectIn entry = .ok o) :
    o.1.isKey = true := by
  rw [← describesObject_iff] at h
  cases h with
  | object opened named served key => exact key

/-- Objects named by keys are registered one after another. -/
theorem foldlM_addObject {objects : List (Value × Value)} (h : ∀ o ∈ objects, o.1.isKey = true)
    (c : Cluster) : objects.foldlM (fun (c : Cluster) o => c.addObject o.1 o.2) c =
      .ok (objects.foldl Contents.withObject c) := by
  induction objects generalizing c with
  | nil => rfl
  | cons o rest ih =>
    obtain ⟨hkey, hrest⟩ := List.forall_mem_cons.mp h
    have hadd : c.addObject o.1 o.2 = .ok (Contents.withObject c o) := by
      rw [Cluster.addObject, if_pos hkey]
      rfl
    rw [List.foldlM_cons, hadd]
    exact ih hrest (Contents.withObject c o)

/-- What the sections list is what the entries describe. -/
theorem contentsIn_eq_ok_iff (k : Contents) : contentsIn entries = .ok k ↔
    ∃ mapEntries objectEntries,
      Lists "maps" entries (.ok mapEntries) ∧ Lists "objects" entries (.ok objectEntries) ∧
      List.Forall₂ (fun entry m => DescribesMap entry (.ok m)) mapEntries k.maps ∧
      List.Forall₂ (fun entry o => DescribesObject entry (.ok o)) objectEntries k.objects := by
  simp only [lists_iff, describesMap_iff, describesObject_iff, ← mapM_eq_ok_iff, contentsIn]
  obtain ⟨maps, objects⟩ := k
  cases hmaps : sectionElements "maps" entries with
  | error m => simp [bind, Except.bind]
  | ok mapEntries =>
    cases hread : mapEntries.mapM mapIn with
    | error m => simp [bind, Except.bind, hread]
    | ok found =>
      cases hobjects : sectionElements "objects" entries with
      | error m => simp [bind, Except.bind, hread]
      | ok objectEntries =>
        cases hfound : objectEntries.mapM objectIn <;>
          simp [bind, Except.bind, pure, Except.pure, hread, hfound]

/-- What registering the entries gives is the cluster of what they list. -/
theorem registers_iff (service : String) (c : Cluster) : Registers entries service c ↔
    ∃ k, contentsIn entries = .ok k ∧ c = k.cluster service := by
  have hkeys {objectEntries : List Value} {objects : List (Value × Value)}
      (h : List.Forall₂ (fun entry o => DescribesObject entry (.ok o)) objectEntries objects) :
      ∀ o ∈ objects, o.1.isKey = true := by
    induction h with
    | nil => simp
    | cons hhead _ ih =>
      exact List.forall_mem_cons.mpr ⟨isKey_of_objectIn ((describesObject_iff _ _).mp hhead), ih⟩
  constructor
  · rintro ⟨mapEntries, objectEntries, maps, objects, hmaps, hobjects, hread, hfound, hregistered⟩
    refine ⟨⟨maps, objects⟩, (contentsIn_eq_ok_iff _).mpr
      ⟨mapEntries, objectEntries, hmaps, hobjects, hread, hfound⟩, ?_⟩
    rw [foldlM_addObject (hkeys hfound)] at hregistered
    exact (Except.ok.inj hregistered).symm
  · rintro ⟨k, hk, rfl⟩
    obtain ⟨mapEntries, objectEntries, hmaps, hobjects, hread, hfound⟩ :=
      (contentsIn_eq_ok_iff k).mp hk
    exact ⟨mapEntries, objectEntries, k.maps, k.objects, hmaps, hobjects, hread, hfound,
      foldlM_addObject (hkeys hfound) _⟩

/-- Any value is taken for a cluster or refused as a matter of the configuration: without a cause if
it is no mapping, and otherwise for what is wrong at the first place that does not fit. Where every
place fits, the cluster is what registering the entries in their order gives. -/
theorem toCluster_first_offence (document : Value) (service : String) :
    let outcome := (toCluster document service).result
    (∀ r, outcome = .error r → r.failure.isConfiguration = true) ∧
    ((∀ entries, document.opened ≠ .mapping entries) →
      outcome = .error ⟨.misconfigured "Cluster snapshot must be a mapping", none⟩) ∧
    ∀ entries, document.opened = .mapping entries →
      (∀ r, outcome = .error r ↔ ∃ place m, OffendsFirst entries place m ∧
        r = ⟨.misconfigured ("Malformed cluster snapshot: " ++ m.message), some (.mishap m)⟩) ∧
      ((∃ c, outcome = .ok c) ↔ ∀ place m, ¬ Offends entries place m) ∧
      ∀ c, outcome = .ok c ↔ Registers entries service c := by
  dsimp only
  rw [result_toCluster]
  refine ⟨fun r failed => ?_, fun scalar => ?_, fun entries opened => ?_⟩
  · cases hk : contents document with
    | ok k => rw [hk] at failed; cases failed
    | error r' =>
      rw [hk] at failed
      exact Except.error.inj failed ▸ isConfiguration_of_contents_error hk
  · rw [contents]
    cases hd : document.opened with
    | mapping entries => exact absurd hd (scalar entries)
    | _ => rfl
  · have hcontents : contents document = (contentsIn entries).mapError malformedBy := by
      rw [contents, opened]
    simp only [registers_iff]
    rw [hcontents]
    cases hk : contentsIn entries with
    | ok k =>
      have hfits := not_offends_of_contentsIn hk
      refine ⟨fun r => ⟨fun h => ?_, ?_⟩, ⟨fun _ => hfits, fun _ => ⟨_, rfl⟩⟩, fun c => ?_⟩
      · cases h
      · rintro ⟨place, m, hfirst, -⟩
        exact absurd hfirst.offends (hfits place m)
      · simp [Except.mapError, Except.map, eq_comm]
    | error m =>
      obtain ⟨place, hfirst⟩ := exists_offendsFirst_of_contentsIn hk
      refine ⟨fun r => ⟨fun h => ?_, ?_⟩, ⟨?_, fun hfits => ?_⟩, fun c => ?_⟩
      · exact ⟨place, m, hfirst, (Except.error.inj h).symm⟩
      · rintro ⟨other, m', hfirst', rfl⟩
        obtain rfl := hfirst.unique hfirst'
        rfl
      · rintro ⟨c, hc⟩
        cases hc
      · exact absurd hfirst.offends (hfits place m)
      · simp [Except.mapError, Except.map]

/-- An entry with the configuration of a map. -/
def ordersEntry : Value :=
  .mapping [(.text "config", .mapping [(.text "name", .text "orders")])]

/-- An entry with an object that is no map. -/
def jobsEntry : Value :=
  .mapping [(.text "name", .text "jobs"), (.text "service_name", .text "queues")]

/-- Sections of which the second map does not fit, nor the section of other objects. -/
def muddled : List (Value × Value) :=
  [(.text "objects", .int 5), (.text "maps", .list [ordersEntry, .text "carts", .null])]

/-- Sections that fit. -/
def orderly : List (Value × Value) :=
  [(.text "objects", .list [jobsEntry]), (.text "maps", .list [ordersEntry])]

/-- A text among the maps is complained of, and neither what comes after it nor the other objects
are; without it and them the map and the object are registered. -/
theorem toCluster_first_offence_muddled :
    (toCluster (.mapping muddled) defaultMapService).result =
        .error (malformedBy (.kind "string indices must be integers, not 'str'")) ∧
      (toCluster (.mapping orderly) defaultMapService).result =
        .ok { objects := [(.text "orders", .text defaultMapService),
                (.text "jobs", .text "queues")]
              configs := [("orders", { name := "orders" })]
              stats := [("orders", {})] } := by
  have horders : mapIn ordersEntry = .ok ({ name := "orders" }, {}) := by with_unfolding_all rfl
  have hjobs : objectIn jobsEntry = .ok (.text "jobs", .text "queues") := by
    with_unfolding_all rfl
  have hmaps : sectionElements "maps" muddled = .ok [ordersEntry, .text "carts", .null] := rfl
  have hfirst : OffendsFirst muddled (.map 1)
      (.kind "string indices must be integers, not 'str'") := by
    refine ⟨.map ((lists_iff _ _ _).mpr hmaps) (i := 1) rfl (.unsubscriptable nofun),
      fun earlier other hb => ?_⟩
    cases earlier with
    | maps => exact not_offends_maps hmaps other
    | map i =>
      obtain rfl : i = 0 := Nat.lt_one_iff.mp hb
      refine not_offends_map hmaps (fun entry hentry => ?_) other
      exact ⟨_, Option.some.inj hentry ▸ horders⟩
    | objects => exact hb.elim
    | object i => exact hb.elim
  obtain ⟨-, -, hmuddled⟩ := toCluster_first_offence (.mapping muddled) defaultMapService
  obtain ⟨-, -, horderly⟩ := toCluster_first_offence (.mapping orderly) defaultMapService
  refine ⟨((hmuddled muddled rfl).1 _).mpr ⟨.map 1, _, hfirst, rfl⟩,
    ((horderly orderly rfl).2.2 _).mpr ?_⟩
  exact ⟨[ordersEntry], [jobsEntry], _, _, (lists_iff _ _ _).mpr rfl, (lists_iff _ _ _).mpr rfl,
    .cons ((describesMap_iff _ _).mpr horders) .nil,
    .cons ((describesObject_iff _ _).mpr hjobs) .nil, rfl⟩

end MapMetrics.Snapshot
