import MapMetrics.Proofs.Validation.Restoring

/-!
# The normal form of every record

The records of a map, its counters, the identity of an object and the settings: whatever value one
of them has been read from, the value that is written down for it, with every field and every
default, is read as that very record. The records inside of others come first.
-/

namespace MapMetrics

open MapMetrics.Field Outcome

/-- What has been read as a record of a type is read again from what is written down for it. -/
def Model.Restored (α : Type) [Model α] : Prop :=
  Restores (Model.ofValue : Value → Outcome α) Model.toValue

/-! ## Names of choices -/

theorem EvictionPolicy.ofText?_name (p : EvictionPolicy) :
    Named.ofText? (Named.name p) = some p := by
  cases p <;> rfl

theorem InMemoryFormat.ofText?_name (f : InMemoryFormat) :
    Named.ofText? (Named.name f) = some f := by
  cases f <;> rfl

theorem KeyStyle.ofName?_name (style : KeyStyle) :
    Named.ofName? (Named.name style) = some style := by
  cases style <;> rfl

/-! ## Parts of a configuration -/

theorem MapStoreConfig.restored : Model.Restored MapStoreConfig := by
  refine restores_closedRecord (fun _ => rfl) fun entries c made => ?_
  simp only [seq_eq_valid_iff, map_eq_valid_iff] at made ⊢
  obtain ⟨_, _, ⟨_, henabled, rfl⟩, hclass, rfl⟩ := made
  exact ⟨_, _, ⟨_, restores_bool.optional rfl henabled rfl, rfl⟩,
    restores_perhapsText.optional rfl hclass rfl, rfl⟩

theorem HotRestartConfig.restored : Model.Restored HotRestartConfig := by
  refine restores_closedRecord (fun _ => rfl) fun entries c made => ?_
  simp only [seq_eq_valid_iff, map_eq_valid_iff] at made ⊢
  obtain ⟨_, _, ⟨_, henabled, rfl⟩, hfsync, rfl⟩ := made
  exact ⟨_, _, ⟨_, restores_bool.optional rfl henabled rfl, rfl⟩,
    restores_bool.optional rfl hfsync rfl, rfl⟩

theorem EvictionConfig.restored : Model.Restored EvictionConfig := by
  refine restores_closedRecord (fun _ => rfl) fun entries c made => ?_
  simp only [seq_eq_valid_iff, map_eq_valid_iff] at made ⊢
  obtain ⟨_, _, ⟨_, hpolicy, rfl⟩, hsize, rfl⟩ := made
  exact ⟨_, _, ⟨_, (restores_lenient _ EvictionPolicy.ofText?_name).optional rfl hpolicy rfl, rfl⟩,
    (restores_atLeast 0).optional rfl hsize rfl, rfl⟩

theorem IndexConfig.restored : Model.Restored IndexConfig := by
  refine restores_closedRecord (fun _ => rfl) fun entries c made => ?_
  simp only [seq_eq_valid_iff, map_eq_valid_iff] at made ⊢
  obtain ⟨_, _, ⟨_, _, ⟨_, hattributes, rfl⟩, hname, rfl⟩, hkind, rfl⟩ := made
  exact ⟨_, _, ⟨_, _, ⟨_, restores_text.someSequence.required hattributes rfl, rfl⟩,
    restores_perhapsText.optional rfl hname rfl, rfl⟩,
    restores_text.optional rfl hkind rfl, rfl⟩

theorem AttributeConfig.restored : Model.Restored AttributeConfig := by
  refine restores_closedRecord (fun _ => rfl) fun entries c made => ?_
  simp only [seq_eq_valid_iff, map_eq_valid_iff] at made ⊢
  obtain ⟨_, _, ⟨_, hname, rfl⟩, hextractor, rfl⟩ := made
  exact ⟨_, _, ⟨_, restores_text.required hname rfl, rfl⟩,
    restores_text.required hextractor rfl, rfl⟩

theorem QueryCacheConfig.restored : Model.Restored QueryCacheConfig := by
  refine restores_closedRecord (fun _ => rfl) fun entries c made => ?_
  simp only [seq_eq_valid_iff, map_eq_valid_iff] at made ⊢
  obtain ⟨_, _, ⟨_, _, ⟨_, hname, rfl⟩, hpredicate, rfl⟩, hvalue, rfl⟩ := made
  exact ⟨_, _, ⟨_, _, ⟨_, restores_text.required hname rfl, rfl⟩,
    restores_perhapsText.optional rfl hpredicate rfl, rfl⟩,
    restores_bool.optional rfl hvalue rfl, rfl⟩

theorem WanReplicationRef.restored : Model.Restored WanReplicationRef := by
  refine restores_closedRecord (fun _ => rfl) fun entries c made => ?_
  simp only [seq_eq_valid_iff, map_eq_valid_iff] at made ⊢
  obtain ⟨_, _, ⟨_, hname, rfl⟩, hpolicy, rfl⟩ := made
  exact ⟨_, _, ⟨_, restores_text.required hname rfl, rfl⟩,
    restores_perhapsText.optional rfl hpolicy rfl, rfl⟩

/-! ## Whole records -/

theorem MapConfig.restored : Model.Restored MapConfig := by
  have hwan : ∀ r : WanReplicationRef, Model.toValue r ≠ .null := fun _ => by
    simp [Model.toValue, Model.fields]
  refine restores_closedRecord (fun _ => rfl) fun entries c made => ?_
  simp only [seq_eq_valid_iff, map_eq_valid_iff] at made ⊢
  -- the last field stands outermost
  obtain ⟨_, _, ⟨_, _, ⟨_, _, ⟨_, _, ⟨_, _, ⟨_, _, ⟨_, _, ⟨_, _, ⟨_, _, ⟨_, name, rfl⟩, backup,
    rfl⟩, store, rfl⟩, indexes, rfl⟩, eviction, rfl⟩, format, rfl⟩, restart, rfl⟩, wan, rfl⟩,
    attributes, rfl⟩, caches, rfl⟩ := made
  exact ⟨_, _, ⟨_, _, ⟨_, _, ⟨_, _, ⟨_, _, ⟨_, _, ⟨_, _, ⟨_, _, ⟨_, _, ⟨_,
    restores_someText.required name rfl, rfl⟩,
    restores_bool.optional rfl backup rfl, rfl⟩,
    MapStoreConfig.restored.optional rfl store rfl, rfl⟩,
    IndexConfig.restored.sequence.optional rfl indexes rfl, rfl⟩,
    EvictionConfig.restored.optional rfl eviction rfl, rfl⟩,
    (restores_lenient _ InMemoryFormat.ofText?_name).optional rfl format rfl, rfl⟩,
    HotRestartConfig.restored.optional rfl restart rfl, rfl⟩,
    (WanReplicationRef.restored.perhaps hwan).optional rfl wan rfl, rfl⟩,
    AttributeConfig.restored.sequence.optional rfl attributes rfl, rfl⟩,
    QueryCacheConfig.restored.sequence.optional rfl caches rfl, rfl⟩

theorem MapStats.restored : Model.Restored MapStats := by
  refine restores_closedRecord (fun _ => rfl) fun entries s made => ?_
  simp only [seq_eq_valid_iff, map_eq_valid_iff] at made ⊢
  obtain ⟨_, _, ⟨_, _, ⟨_, _, ⟨_, getLatency, rfl⟩, getCount, rfl⟩, putLatency, rfl⟩, putCount,
    rfl⟩ := made
  exact ⟨_, _, ⟨_, _, ⟨_, _, ⟨_,
    (restores_atLeast 0).optional rfl getLatency rfl, rfl⟩,
    (restores_atLeast 0).optional rfl getCount rfl, rfl⟩,
    (restores_atLeast 0).optional rfl putLatency rfl, rfl⟩,
    (restores_atLeast 0).optional rfl putCount rfl, rfl⟩

theorem ObjectInfo.restored : Model.Restored ObjectInfo := by
  refine restores_closedRecord (fun _ => rfl) fun entries o made => ?_
  simp only [seq_eq_valid_iff, map_eq_valid_iff] at made ⊢
  obtain ⟨_, _, ⟨_, name, rfl⟩, service, rfl⟩ := made
  exact ⟨_, _, ⟨_, restores_text.required name rfl, rfl⟩,
    restores_text.optional rfl service rfl, rfl⟩

theorem Settings.restored : Model.Restored Settings := by
  have interval_default : positive (.float 60.0) = .valid 60.0 := positive_float (by decide +kernel)
  refine restores_closedRecord (fun _ => rfl) fun entries s made => ?_
  simp only [seq_eq_valid_iff, map_eq_valid_iff] at made ⊢
  obtain ⟨_, _, ⟨_, _, ⟨_, _, ⟨_, _, ⟨_, _, ⟨_, _, ⟨_, _, ⟨_, enabled, rfl⟩, interval, rfl⟩, names,
    rfl⟩, service, rfl⟩, style, rfl⟩, isolate, rfl⟩, parallel, rfl⟩, workers, rfl⟩ := made
  exact ⟨_, _, ⟨_, _, ⟨_, _, ⟨_, _, ⟨_, _, ⟨_, _, ⟨_, _, ⟨_,
    restores_bool.optional rfl enabled rfl, rfl⟩,
    restores_positive.optional interval_default interval rfl, rfl⟩,
    restores_someText.optional rfl names rfl, rfl⟩,
    restores_someText.optional rfl service rfl, rfl⟩,
    (restores_choice KeyStyle.ofName?_name).optional rfl style rfl, rfl⟩,
    restores_bool.optional rfl isolate rfl, rfl⟩,
    restores_bool.optional rfl parallel rfl, rfl⟩,
    (restores_atLeast 1).optional rfl workers rfl, rfl⟩

/-! ## All records -/

/-- Whatever value a record has been read from, what is written down for it is read as the record
itself: the configuration of a map and all records inside of it, the counters of a map, the identity
of an object, and the settings. -/
theorem Model.ofValue_toValue :
    (Model.Restored MapStoreConfig ∧ Model.Restored HotRestartConfig ∧
      Model.Restored EvictionConfig ∧ Model.Restored IndexConfig ∧ Model.Restored AttributeConfig ∧
      Model.Restored QueryCacheConfig ∧ Model.Restored WanReplicationRef) ∧
    Model.Restored MapConfig ∧ Model.Restored MapStats ∧ Model.Restored ObjectInfo ∧
    Model.Restored Settings :=
  ⟨⟨MapStoreConfig.restored, HotRestartConfig.restored, EvictionConfig.restored,
    IndexConfig.restored, AttributeConfig.restored, QueryCacheConfig.restored,
    WanReplicationRef.restored⟩,
   MapConfig.restored, MapStats.restored, ObjectInfo.restored, Settings.restored⟩

/-- A configuration in which nearly everything is given in another form than it is written in. -/
def looseConfig : Value :=
  Model.fields [
    ("name", .text "orders"),
    ("read_backup_data", .text "Yes"),
    ("eviction", Model.fields [("policy", .text " lru\n"), ("size", .text "+1_000.0")]),
    ("in_memory_format", .text "Native"),
    ("indexes", .list [Model.fields [("attributes", .pair (.text "day") (.text "hour"))]]),
    ("map_store", Model.fields [("enabled", .float 1.0), ("class_name", .null)])]

/-- What the loose configuration is read as. -/
def strictConfig : MapConfig where
  name := "orders"
  readBackupData := true
  eviction := { policy := .lru, size := 1000 }
  inMemoryFormat := .native
  indexes := [{ attributes := ["day", "hour"] }]
  mapStore := { enabled := true }

/-- It is read again from what is written down for it. -/
theorem Model.ofValue_toValue_strictConfig :
    Model.ofValue looseConfig = .valid strictConfig ∧
      Model.ofValue (Model.toValue strictConfig) = .valid strictConfig := by
  have hread : Model.ofValue looseConfig = .valid strictConfig := by
    with_unfolding_all rfl
  exact ⟨hread, Model.ofValue_toValue.2.1 _ _ hread⟩

end MapMetrics
