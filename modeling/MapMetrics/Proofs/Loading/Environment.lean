import MapMetrics.Proofs.Loading.Sources
import MapMetrics.Proofs.Number.Decimal
import MapMetrics.Proofs.Validation.Records

/-!
# Settings as texts

The environment gives nothing but texts, and a file gives values of their own kinds. Every field of
settings is read from its own text as it is from its own value, so the two express the same
settings, and the one may stand in for the other in each field by itself.

Of the reals it is assumed that the text of an interval denotes that interval, in digits of any
script; the reader of settings has a grammar of its own, and reads the same.
-/

namespace MapMetrics

namespace Field

open Outcome

theorem bool_boolLiteral (b : Bool) : bool (.text (Value.boolLiteral b)) = .valid b := by
  have hword : boolWord? (Value.boolLiteral b) = some b := by
    cases b <;> decide +kernel
  exact bool_text hword

/-- An interval above zero is read from its text if the text denotes it. -/
theorem positive_text {x : Float} (h : 0.0 < x)
    (denotes : Number.realOfText? (Number.text x).toList = some x) :
    positive (.text (Number.text x)) = .valid x := by
  rw [positive, real_text (Number.real?_text denotes), andThen, if_pos h]

/-- A number is read from its text if it is no less than what is asked for, and not too long. -/
theorem atLeast_text {least n : Nat} (h : least ≤ n) (hpos : 0 < n)
    (writable : Number.isWritable n = true) :
    atLeast least (.text (toString n)) = .valid n := by
  have hint := int_text (Number.whole_toString hpos writable)
  have hn : (least : Int) ≤ n := Int.ofNat_le.mpr h
  rw [atLeast, hint, andThen, if_pos hn, Int.toNat_natCast]

end Field

namespace Settings

open MapMetrics.Field Outcome

variable {s : Settings}

/-- The texts of the fields. -/
def texts (s : Settings) : Table String := [
  ("enabled", Value.boolLiteral s.enabled),
  ("collection_interval", Number.text s.collectionInterval),
  ("metrics_prefix", s.metricsPrefix),
  ("map_service_name", s.mapServiceName),
  ("key_style", Named.name s.keyStyle),
  ("isolate_stats_failures", Value.boolLiteral s.isolateStatsFailures),
  ("parallel_aggregation", Value.boolLiteral s.parallelAggregation),
  ("max_workers", toString s.maxWorkers)]

/-- The values of the fields, each of its own kind. -/
def values (s : Settings) : Table Value := [
  ("enabled", .bool s.enabled),
  ("collection_interval", .float s.collectionInterval),
  ("metrics_prefix", .text s.metricsPrefix),
  ("map_service_name", .text s.mapServiceName),
  ("key_style", .text (Named.name s.keyStyle)),
  ("isolate_stats_failures", .bool s.isolateStatsFailures),
  ("parallel_aggregation", .bool s.parallelAggregation),
  ("max_workers", .int s.maxWorkers)]

theorem names_texts (s : Settings) : s.texts.names = fieldNames := rfl

/-- A value for a field is the field's own, or its text. -/
inductive Expresses (s : Settings) (field : String) : Value → Prop where
  /-- The value of the field. -/
  | own {v : Value} (h : s.values.get? field = some v) : Expresses s field v
  /-- The text of the field. -/
  | text {t : String} (h : s.texts.get? field = some t) : Expresses s field (.text t)

/-- A reader that reads the value of a field and its text alike reads what expresses the field. -/
theorem Expresses.read {α : Type} {read : Value → Outcome α} {a : α} {field t : String}
    {v w : Value} (h : s.Expresses field w) (hvalue : s.values.get? field = some v)
    (htext : s.texts.get? field = some t) (ofValue : read v = .valid a)
    (ofText : read (.text t) = .valid a) : read w = .valid a := by
  cases h with
  | own same => exact Option.some.inj (hvalue.symm.trans same) ▸ ofValue
  | text same => exact Option.some.inj (htext.symm.trans same) ▸ ofText

/-- Settings that keep their rules, with an interval that its text denotes and a number of workers
that is not too long, are read from whatever expresses their fields. -/
theorem reads_of_expresses (valid : s.Valid)
    (interval : Number.realOfText? (Number.text s.collectionInterval).toList =
      some s.collectionInterval)
    (workers : Number.isWritable s.maxWorkers = true) {given : String → Value}
    (h : ∀ field ∈ fieldNames, s.Expresses field (given field)) : Reads given s where
  enabled := (h _ (by decide)).read rfl rfl rfl (bool_boolLiteral _)
  collectionInterval := (h _ (by decide)).read rfl rfl (positive_float valid.interval)
    (positive_text valid.interval interval)
  metricsPrefix := (h _ (by decide)).read rfl rfl (someText_text valid.metricsPrefix)
    (someText_text valid.metricsPrefix)
  mapServiceName := (h _ (by decide)).read rfl rfl (someText_text valid.mapServiceName)
    (someText_text valid.mapServiceName)
  keyStyle := (h _ (by decide)).read rfl rfl (choice_text (KeyStyle.ofName?_name _))
    (choice_text (KeyStyle.ofName?_name _))
  isolateStatsFailures := (h _ (by decide)).read rfl rfl rfl (bool_boolLiteral _)
  parallelAggregation := (h _ (by decide)).read rfl rfl rfl (bool_boolLiteral _)
  maxWorkers := (h _ (by decide)).read rfl rfl (atLeast_int valid.maxWorkers)
    (atLeast_text valid.maxWorkers valid.maxWorkers workers)

/-- If the section has no foreign key, and what is given for every field expresses it, the settings
are what the section is resolved to. -/
theorem resolve_of_expresses (valid : s.Valid)
    (interval : Number.realOfText? (Number.text s.collectionInterval).toList =
      some s.collectionInterval)
    (workers : Number.isWritable s.maxWorkers = true) {env : Environment}
    {section_ : List (Value × Value)}
    (known : ∀ e ∈ section_, ∃ name ∈ fieldNames, e.1 = .text name)
    (expressed : ∀ field ∈ fieldNames, ∃ v, given? env section_ field = some v ∧
      s.Expresses field v) :
    resolve env section_ = .ok s := by
  refine resolve_eq_ok_iff.mpr ⟨reads_of_expresses valid interval workers fun field hfield => ?_,
    onlyKnown_eq_valid_iff.mpr known⟩
  obtain ⟨v, hgiven, hv⟩ := expressed field hfield
  rw [raw, hgiven]
  exact hv

/-- When the environment gives every field of some settings as its text, these settings are loaded,
whatever the section of the file has under the names of fields. The same settings are loaded when
the section gives the values of the fields, or some fields are given in the one way and some in the
other. -/
theorem load_texts (valid : s.Valid)
    (interval : Number.realOfText? (Number.text s.collectionInterval).toList =
      some s.collectionInterval)
    (workers : Number.isWritable s.maxWorkers = true) {files : Files} {env : Environment}
    {path : Option String} {section_ : List (Value × Value)}
    (found : chosenSection files env path = .ok section_)
    (known : ∀ e ∈ section_, ∃ name ∈ fieldNames, e.1 = .text name) :
    ((∀ e ∈ s.texts, env (variableOf e.1) = some e.2) → (load files env path).result = .ok s) ∧
    ((∀ field ∈ fieldNames, ∃ v, given? env section_ field = some v ∧ s.Expresses field v) →
      (load files env path).result = .ok s) := by
  rw [result_load_of_section found]
  refine ⟨fun given => ?_, resolve_of_expresses valid interval workers known⟩
  refine resolve_of_expresses valid interval workers known fun field hfield => ?_
  obtain ⟨⟨_, t⟩, he, rfl⟩ := List.mem_map.mp (names_texts s ▸ hfield)
  have hnodup : s.texts.names.Nodup := by
    rw [names_texts]
    decide
  refine ⟨.text t, ?_, .text ((Table.mem_iff_get? hnodup).mp he)⟩
  rw [given?, given _ he]
  rfl

/-- The environment that gives every field as its text, and nothing else. -/
def environmentOf (s : Settings) : Environment := fun v =>
  (s.texts.find? fun e => variableOf e.1 == v).map (·.2)

/-- Settings with no field at its default. -/
def rareSettings : Settings where
  enabled := false
  collectionInterval := 0.1
  metricsPrefix := " grid\n"
  mapServiceName := "on"
  keyStyle := .compact
  isolateStatsFailures := false
  parallelAggregation := true
  maxWorkers := 12

/-- A settings file with values that are not valid. -/
def spoiltText : String :=
  "\x7b\"collector\": \x7b\"enabled\": 7, \"max_workers\": \"none\"\x7d\x7d"

/-- The settings are loaded from the environment over the values that are not valid. -/
theorem load_texts_rareSettings :
    let files := Files.only "settings.json" spoiltText.toUTF8.toList
    let env := environmentOf rareSettings
    rareSettings.Valid ∧
    Number.realOfText? (Number.text rareSettings.collectionInterval).toList =
      some rareSettings.collectionInterval ∧
    Number.isWritable rareSettings.maxWorkers = true ∧
    chosenSection files env (some "settings.json") =
      .ok [(.text "enabled", .int 7), (.text "max_workers", .text "none")] ∧
    (∀ e ∈ rareSettings.texts, env (variableOf e.1) = some e.2) ∧
    (load files env (some "settings.json")).result = .ok rareSettings := by
  intro files env
  have valid : rareSettings.Valid := {
    interval := by decide +kernel
    metricsPrefix := by decide
    mapServiceName := by decide
    maxWorkers := by decide }
  have interval : Number.realOfText? (Number.text rareSettings.collectionInterval).toList =
      some rareSettings.collectionInterval := by
    decide +kernel
  have workers : Number.isWritable rareSettings.maxWorkers = true := by decide +kernel
  have stands : files (Path.plain "settings.json") = .file spoiltText.toUTF8.toList := by
    with_unfolding_all rfl
  have named : DocumentFormat.ofPath? (Path.plain "settings.json") = some .json := by
    with_unfolding_all rfl
  have decoded : (Text.Utf8.decode spoiltText.toUTF8.toList).toOption =
      some spoiltText.toList := by
    decide +kernel
  have read : Json.read (Text.unifyLineEnds spoiltText.toList) = .ok (.mapping [(.text "collector",
      .mapping [(.text "enabled", .int 7), (.text "max_workers", .text "none")])]) := by
    with_unfolding_all rfl
  have found := chosenSection_of_json env (by decide) stands named decoded read rfl
  have given : ∀ e ∈ rareSettings.texts, env (variableOf e.1) = some e.2 := by decide +kernel
  have known : ∀ e ∈ [(Value.text "enabled", Value.int 7), (.text "max_workers", .text "none")],
      ∃ name ∈ fieldNames, e.1 = .text name := by
    simp [fieldNames]
  exact ⟨valid, interval, workers, found, given,
    (load_texts valid interval workers found known).1 given⟩

end Settings

end MapMetrics
