import MapMetrics.Proofs.Loading.Settings
import MapMetrics.Proofs.Table

/-!
# Where settings come from

A field has the value that the environment gives for it, or else that of the section, or else its
default. Settings are read exactly when each of these values is valid for its field and the section
has no foreign key. Otherwise one problem is reported: that of the first field whose value is not
valid, and only when there is none, that of the first foreign key of the section.
-/

namespace MapMetrics

namespace Field

/-- Inserting under a known name makes no key foreign and hides no foreign key. -/
theorem filterMap_keyProblem?_insert {known : List String} {name : String}
    (h : known.contains name = true) (v : Value) (entries : List (Value × Value)) :
    (Value.insert (.text name) v entries).filterMap (fun e => keyProblem? known e.1 e.2) =
      entries.filterMap fun e => keyProblem? known e.1 e.2 := by
  have hnone (w : Value) : keyProblem? known (.text name) w = none := if_pos h
  induction entries with
  | nil => simp [Value.insert, hnone]
  | cons e rest ih =>
    obtain ⟨key, w⟩ := e
    rw [Value.insert]
    cases same : key.sameKey (.text name) with
    | true =>
      obtain rfl := Value.eq_of_sameKey_text same
      simp [hnone]
    | false =>
      simp only [Bool.false_eq_true, if_false, List.filterMap_cons, ih]

/-- A mapping has no foreign keys when all of its keys are names of fields. -/
theorem onlyKnown_eq_valid_iff {known : List String} {entries : List (Value × Value)} :
    onlyKnown known entries = .valid () ↔ ∀ e ∈ entries, ∃ name ∈ known, e.1 = .text name := by
  have hkey (e : Value × Value) :
      keyProblem? known e.1 e.2 = none ↔ ∃ name ∈ known, e.1 = .text name := by
    obtain ⟨key, v⟩ := e
    cases key <;> simp [keyProblem?]
  have hvalid : onlyKnown known entries = .valid () ↔ (onlyKnown known entries).problems = [] := by
    rw [Outcome.problems_eq_nil_iff]
    exact ⟨fun h => ⟨(), h⟩, fun ⟨_, h⟩ => h⟩
  rw [hvalid, onlyKnown, Outcome.problems_ofProblems, List.filterMap_eq_nil_iff]
  exact forall₂_congr fun e _ => hkey e

end Field

namespace Settings

open MapMetrics.Field Outcome

/-! ## The values of the fields -/

/-- What is given for a field: by the environment, or else by the section. -/
def given? (env : Environment) (section_ : List (Value × Value)) (field : String) : Option Value :=
  ((env (variableOf field)).map .text).or (Value.field? field section_)

/-- The default of a field as a value. -/
def standard (field : String) : Value :=
  match Model.toValue ({} : Settings) with
  | .mapping entries => (Value.field? field entries).getD .null
  | _ => .null

/-- The value of a field as it comes to validation. -/
def raw (env : Environment) (section_ : List (Value × Value)) (field : String) : Value :=
  (given? env section_ field).getD (standard field)

/-- Overriding some fields in turn leaves in each what is given for it. -/
private theorem field?_overridden (env : Environment) (fields : List String)
    (section_ : List (Value × Value)) (field : String) :
    Value.field? field ((fields.filterMap fun f =>
        (env (variableOf f)).map fun s => (Value.text f, Value.text s)).foldl
        (fun made e => Value.insert e.1 e.2 made) section_) =
      if field ∈ fields then given? env section_ field else Value.field? field section_ := by
  induction fields generalizing section_ with
  | nil => rfl
  | cons f rest ih =>
    rw [List.filterMap_cons]
    cases given : env (variableOf f) with
    | none =>
      by_cases same : field = f
      · subst same
        simp [ih, given?, given]
      · simp [ih, same]
    | some s =>
      by_cases same : field = f
      · subst same
        simp [ih, given?, given, Value.field?_insert]
      · simp [ih, given?, same, Value.field?_insert]

theorem field?_combined (env : Environment) (section_ : List (Value × Value)) {field : String}
    (h : field ∈ fieldNames) :
    Value.field? field ((overrides env).foldl (fun made e => Value.insert e.1 e.2 made) section_) =
      given? env section_ field := by
  rw [overrides, field?_overridden, if_pos h]

/-- The environment brings no foreign key with it. -/
theorem onlyKnown_combined (env : Environment) (section_ : List (Value × Value)) :
    onlyKnown fieldNames
        ((overrides env).foldl (fun made e => Value.insert e.1 e.2 made) section_) =
      onlyKnown fieldNames section_ := by
  have hkeys : ∀ e ∈ overrides env, ∃ name, e.1 = .text name ∧ fieldNames.contains name = true := by
    intro e he
    obtain ⟨field, hfield, hover⟩ := List.mem_filterMap.mp he
    obtain ⟨s, -, rfl⟩ := Option.map_eq_some_iff.mp hover
    exact ⟨field, rfl, List.contains_iff_mem.mpr hfield⟩
  rw [onlyKnown, onlyKnown]
  refine congrArg ofProblems ?_
  generalize overrides env = entries at hkeys
  induction entries generalizing section_ with
  | nil => rfl
  | cons e rest ih =>
    obtain ⟨⟨name, hname, hknown⟩, hrest⟩ := List.forall_mem_cons.mp hkeys
    rw [List.foldl_cons, ih _ hrest, hname, filterMap_keyProblem?_insert hknown]

/-- Settings made of the values of the fields. -/
def made (values : String → Value) : Outcome Settings :=
  Settings.mk
    <$> (bool (values "enabled")).within (.field "enabled")
    <*> (positive (values "collection_interval")).within (.field "collection_interval")
    <*> (someText (values "metrics_prefix")).within (.field "metrics_prefix")
    <*> (someText (values "map_service_name")).within (.field "map_service_name")
    <*> (choice (values "key_style")).within (.field "key_style")
    <*> (bool (values "isolate_stats_failures")).within (.field "isolate_stats_failures")
    <*> (bool (values "parallel_aggregation")).within (.field "parallel_aggregation")
    <*> (atLeast 1 (values "max_workers")).within (.field "max_workers")

/-- What is made of a section and the environment depends on the values of the fields and on the
foreign keys of the section, and on nothing else. -/
theorem ofValue_combined (env : Environment) (section_ : List (Value × Value)) :
    (Model.ofValue (combined env section_) : Outcome Settings) =
      made (raw env section_) <* onlyKnown fieldNames section_ := by
  have interval : positive (standard "collection_interval") = .valid 60.0 :=
    positive_float (by decide +kernel)
  have field {α : Type} (name : String) (hname : name ∈ fieldNames) (default : α)
      (read : Value → Outcome α) (h : read (standard name) = .valid default) :
      optional ((overrides env).foldl (fun made e => Value.insert e.1 e.2 made) section_) name
        default read = (read (raw env section_ name)).within (.field name) := by
    rw [optional_eq_within h, field?_combined env section_ hname, raw]
  rw [← onlyKnown_combined env section_, made,
    ← field "enabled" (by decide) true bool rfl,
    ← field "collection_interval" (by decide) 60.0 positive interval,
    ← field "metrics_prefix" (by decide) "gridpulse" someText rfl,
    ← field "map_service_name" (by decide) defaultMapService someText rfl,
    ← field "key_style" (by decide) .descriptive choice rfl,
    ← field "isolate_stats_failures" (by decide) true bool rfl,
    ← field "parallel_aggregation" (by decide) false bool rfl,
    ← field "max_workers" (by decide) 4 (atLeast 1) rfl]
  rfl

/-- Settings whose fields are what validation makes of some values. -/
structure Reads (values : String → Value) (s : Settings) : Prop where
  enabled : bool (values "enabled") = .valid s.enabled
  collectionInterval : positive (values "collection_interval") = .valid s.collectionInterval
  metricsPrefix : someText (values "metrics_prefix") = .valid s.metricsPrefix
  mapServiceName : someText (values "map_service_name") = .valid s.mapServiceName
  keyStyle : choice (values "key_style") = .valid s.keyStyle
  isolateStatsFailures : bool (values "isolate_stats_failures") = .valid s.isolateStatsFailures
  parallelAggregation : bool (values "parallel_aggregation") = .valid s.parallelAggregation
  maxWorkers : atLeast 1 (values "max_workers") = .valid s.maxWorkers

theorem made_eq_valid_iff {values : String → Value} {s : Settings} :
    made values = .valid s ↔ Reads values s := by
  constructor
  · intro h
    simp only [made, seq_eq_valid_iff, map_eq_valid_iff, within_eq_valid_iff] at h
    obtain ⟨_, _, ⟨_, _, ⟨_, _, ⟨_, _, ⟨_, _, ⟨_, _, ⟨_, _, ⟨_, enabled, rfl⟩, interval, rfl⟩,
      name, rfl⟩, service, rfl⟩, style, rfl⟩, isolate, rfl⟩, parallel, rfl⟩, workers, rfl⟩ := h
    exact ⟨enabled, interval, name, service, style, isolate, parallel, workers⟩
  · intro h
    rw [made, h.enabled, h.collectionInterval, h.metricsPrefix, h.mapServiceName, h.keyStyle,
      h.isolateStatsFailures, h.parallelAggregation, h.maxWorkers]
    rfl

/-! ## The first problem -/

/-- What every field complains of in a value, in the order of the fields. -/
def checks : Table (Value → Option Complaint) := [
  ("enabled", complaint? bool),
  ("collection_interval", complaint? positive),
  ("metrics_prefix", complaint? someText),
  ("map_service_name", complaint? someText),
  ("key_style", complaint? (choice : Value → Outcome KeyStyle)),
  ("isolate_stats_failures", complaint? bool),
  ("parallel_aggregation", complaint? bool),
  ("max_workers", complaint? (atLeast 1))]

theorem names_checks : checks.names = fieldNames := rfl

/-- The problem of a check with the value of its field. -/
def checkProblem? (values : String → Value) (check : String × (Value → Option Complaint)) :
    Option Problem :=
  (check.2 (values check.1)).map fun c => ⟨[.field check.1], c, values check.1⟩

theorem problems_made (values : String → Value) :
    (made values).problems = checks.filterMap (checkProblem? values) := by
  have step {α : Type} {read : Value → Outcome α} (h : Plain read) (name : String)
      (rest : Table (Value → Option Complaint)) :
      ((read (values name)).within (.field name)).problems ++
        rest.filterMap (checkProblem? values) =
      ((name, complaint? read) :: rest).filterMap (checkProblem? values) := by
    rw [problems_within, h.problems, List.filterMap_cons, checkProblem?]
    dsimp only
    cases complaint? read (values name) <;> rfl
  simp only [checks, ← step plain_bool, ← step plain_positive, ← step plain_someText,
    ← step plain_choice, ← step (plain_atLeast 1), made, problems_seq, problems_map,
    List.append_assoc, List.filterMap_nil, List.append_nil]

/-- The first field whose value is not valid, with the complaint about it. -/
def firstInvalid? (values : String → Value) : Option (String × Complaint) :=
  checks.findSome? fun check => (check.2 (values check.1)).map fun c => (check.1, c)

/-- A key as it is reported. That of no characters goes by the name of the section. -/
def reported (key : String) : String :=
  if key.isEmpty then "collector" else key

/-- What is reported of an entry whose key names no field: the key, a value and the complaint. The
value is that under the key if the key is a text, and otherwise the key itself. -/
def foreign? : Value × Value → Option (String × Value × Complaint)
  | (.text name, v) =>
    if fieldNames.contains name then none else some (reported name, v, .extra)
  | (key, _) => some (reported (keyStep key).display, key, .invalidKey)

/-- What is reported of the first key of a section that names no field. -/
def firstForeign? (section_ : List (Value × Value)) : Option (String × Value × Complaint) :=
  section_.findSome? foreign?

/-- How the report of a key, a value and a complaint comes out: as a failure of the configuration
that says all three, or, if the value has too many digits to be shown, as an error from below. -/
inductive Refused (key : String) (v : Value) (c : Complaint) : Raised → Prop where
  /-- It can be shown. -/
  | shown {cause : Option Failure} (writable : v.isWritable = true) :
    Refused key v c ⟨.invalidSetting key v c.message none, cause⟩
  /-- It cannot. -/
  | unshown (unwritable : v.isWritable = false) :
    Refused key v c (.ofMishap (.value (Number.tooManyDigits none)))

/-- The key that a problem is reported under. -/
def reportedKey (p : Problem) : String :=
  reported (".".intercalate (p.path.map Step.display))

theorem refused_raised (p : Problem) (rest : List Problem) :
    Refused (reportedKey p) p.input p.complaint (raised p rest) := by
  rw [raised, Library.unshown?_eq]
  cases writable : p.input.isWritable with
  | true => exact .shown writable
  | false => exact .unshown writable

/-- The first problem of the fields is that of the first field that is not valid. -/
theorem head?_problems_made (values : String → Value) :
    (made values).problems.head? =
      (firstInvalid? values).map fun r => ⟨[.field r.1], r.2, values r.1⟩ := by
  rw [problems_made, List.head?_filterMap, firstInvalid?, List.map_findSome?]
  refine congrArg (checks.findSome? ·) (funext fun check => ?_)
  rw [checkProblem?, Function.comp_apply, Option.map_map]
  rfl

theorem mem_fieldNames_of_firstInvalid? {values : String → Value} {field : String} {c : Complaint}
    (h : firstInvalid? values = some (field, c)) : field ∈ fieldNames := by
  obtain ⟨check, hcheck, hc⟩ := List.exists_of_findSome?_eq_some h
  obtain ⟨_, -, he⟩ := Option.map_eq_some_iff.mp hc
  obtain ⟨rfl, -⟩ := Prod.mk.inj he
  rw [← names_checks]
  exact List.mem_map_of_mem hcheck

theorem foreign?_eq (e : Value × Value) :
    foreign? e = (keyProblem? fieldNames e.1 e.2).map fun p =>
      (reportedKey p, p.input, p.complaint) := by
  obtain ⟨key, v⟩ := e
  cases key with
  | text name =>
    rw [foreign?, keyProblem?]
    cases fieldNames.contains name <;> rfl
  | _ => rfl

/-- The first problem of the keys is that of the first foreign key. -/
theorem firstForeign?_eq (section_ : List (Value × Value)) :
    firstForeign? section_ = (onlyKnown fieldNames section_).problems.head?.map fun p =>
      (reportedKey p, p.input, p.complaint) := by
  rw [onlyKnown, problems_ofProblems, List.head?_filterMap, List.map_findSome?, firstForeign?]
  exact congrArg (section_.findSome? ·) (funext foreign?_eq)

/-! ## Resolving -/

/-- Resolving a section is validating the values of the fields and the keys. -/
theorem resolve_eq_made (env : Environment) (section_ : List (Value × Value)) :
    resolve env section_ =
      match made (raw env section_) <* onlyKnown fieldNames section_ with
      | .valid s => .ok s
      | .invalid first rest => .error (raised first rest) := by
  have resolved := resolve_eq env section_
  rw [ofValue_combined] at resolved
  exact resolved

theorem resolve_eq_ok_iff {env : Environment} {section_ : List (Value × Value)} {s : Settings} :
    resolve env section_ = .ok s ↔
      Reads (raw env section_) s ∧ onlyKnown fieldNames section_ = .valid () := by
  rw [← made_eq_valid_iff, resolve_eq_made]
  constructor
  · intro h
    split at h
    · case h_1 s' fine =>
      obtain ⟨reads, _, known⟩ := seqLeft_eq_valid_iff.mp fine
      exact ⟨Except.ok.inj h ▸ reads, known⟩
    · cases h
  · rintro ⟨reads, known⟩
    rw [seqLeft_eq_valid_iff.mpr ⟨reads, (), known⟩]

/-- The first of the problems is the one that is raised. -/
theorem resolve_of_head? {env : Environment} {section_ : List (Value × Value)} {p : Problem}
    (h : (made (raw env section_) <* onlyKnown fieldNames section_).problems.head? = some p) :
    ∃ rest, resolve env section_ = .error (raised p rest) := by
  rw [resolve_eq_made]
  cases outcome : made (raw env section_) <* onlyKnown fieldNames section_ with
  | valid s =>
    rw [outcome] at h
    cases h
  | invalid first rest =>
    rw [outcome] at h
    exact ⟨rest, by rw [Option.some.inj h]⟩

/-- An environment with another value, or none, in a variable. -/
def Environment.set (env : Environment) (variable_ : String) (s : Option String) : Environment :=
  fun v => if v = variable_ then s else env v

theorem variableOf_injective : ∀ a ∈ fieldNames, ∀ b ∈ fieldNames,
    variableOf a = variableOf b → a = b := by
  decide +kernel

theorem variableOf_ne_pathVariable : ∀ field ∈ fieldNames, variableOf field ≠ pathVariable := by
  decide +kernel

/-- The values of the fields and the foreign keys settle what a section is resolved to. -/
theorem resolve_congr {env env' : Environment} {section_ section' : List (Value × Value)}
    (values : ∀ field ∈ fieldNames, raw env section_ field = raw env' section' field)
    (keys : onlyKnown fieldNames section_ = onlyKnown fieldNames section') :
    resolve env section_ = resolve env' section' := by
  have hmade : made (raw env section_) = made (raw env' section') := by
    simp only [fieldNames, List.forall_mem_cons, List.not_mem_nil, false_imp_iff, implies_true,
      and_true] at values
    simp only [made, values]
  rw [resolve_eq_made, resolve_eq_made, hmade, keys]

/-- What the environment gives for a field stands over whatever the section has under its name. -/
theorem resolve_insert {env : Environment} {field text : String} (hfield : field ∈ fieldNames)
    (given : env (variableOf field) = some text) (v : Value) (section_ : List (Value × Value)) :
    resolve env (Value.insert (.text field) v section_) = resolve env section_ := by
  refine resolve_congr (fun other _ => ?_) ?_
  · rw [raw, raw, given?, given?, Value.field?_insert]
    by_cases same : other = field
    · rw [same, given]
      rfl
    · rw [if_neg same]
  · rw [onlyKnown, onlyKnown, filterMap_keyProblem?_insert (List.contains_iff_mem.mpr hfield)]

/-- What the environment gives for one field does not matter to the others. -/
theorem raw_set {env : Environment} {field other : String} (hfield : field ∈ fieldNames)
    (hother : other ∈ fieldNames) (hne : other ≠ field) (text : Option String)
    (section_ : List (Value × Value)) :
    raw (env.set (variableOf field) text) section_ other = raw env section_ other := by
  have hvar : variableOf other ≠ variableOf field :=
    fun same => hne (variableOf_injective other hother field hfield same)
  rw [raw, raw, given?, given?, Environment.set, if_neg hvar]

/-- Nor to the choice of the file. -/
theorem chosenSection_set {env : Environment} {field : String} (hfield : field ∈ fieldNames)
    (text : Option String) (files : Files) (path : Option String) :
    chosenSection files (env.set (variableOf field) text) path = chosenSection files env path := by
  have hpath : (env.set (variableOf field) text) pathVariable = env pathVariable :=
    if_neg (variableOf_ne_pathVariable field hfield).symm
  rw [chosenSection, chosenSection, chosenPath, chosenPath, hpath]

/-- A problem that comes first is reported, however the report comes out. -/
theorem resolve_first (env : Environment) (section_ : List (Value × Value)) :
    match firstInvalid? (raw env section_), firstForeign? section_ with
    | some (field, c), _ =>
      ∃ r, resolve env section_ = .error r ∧ Refused field (raw env section_ field) c r
    | none, some (key, v, c) => ∃ r, resolve env section_ = .error r ∧ Refused key v c r
    | none, none => ∃ s, resolve env section_ = .ok s := by
  have hhead : (made (raw env section_) <* onlyKnown fieldNames section_).problems.head? =
      ((firstInvalid? (raw env section_)).map fun r =>
        ⟨[.field r.1], r.2, raw env section_ r.1⟩).or
        (onlyKnown fieldNames section_).problems.head? := by
    rw [problems_seqLeft, List.head?_append, head?_problems_made]
  cases invalid : firstInvalid? (raw env section_) with
  | some r =>
    obtain ⟨field, c⟩ := r
    rw [invalid] at hhead
    obtain ⟨rest, hr⟩ := resolve_of_head? hhead
    have hkey : reportedKey ⟨[.field field], c, raw env section_ field⟩ = field := by
      have hfields : ∀ f ∈ fieldNames, reported (".".intercalate [f]) = f := by decide +kernel
      exact hfields field (mem_fieldNames_of_firstInvalid? invalid)
    have refused := refused_raised ⟨[.field field], c, raw env section_ field⟩ rest
    rw [hkey] at refused
    exact ⟨_, hr, refused⟩
  | none =>
    rw [invalid] at hhead
    cases foreign : firstForeign? section_ with
    | some r =>
      obtain ⟨key, v, c⟩ := r
      obtain ⟨p, hp, hreport⟩ := Option.map_eq_some_iff.mp (firstForeign?_eq section_ ▸ foreign)
      obtain ⟨rfl, rfl, rfl⟩ := by simpa using hreport
      obtain ⟨rest, hr⟩ := resolve_of_head? (hhead.trans hp)
      exact ⟨_, hr, refused_raised p rest⟩
    | none =>
      have hnone : (onlyKnown fieldNames section_).problems.head? = none :=
        Option.map_eq_none_iff.mp ((firstForeign?_eq section_).symm.trans foreign)
      have hnil := List.head?_eq_none_iff.mp (hhead.trans hnone)
      obtain ⟨s, hs⟩ := problems_eq_nil_iff.mp hnil
      exact ⟨s, by rw [resolve_eq_made, hs]⟩

/-! ## Loading -/

theorem result_load_of_section {files : Files} {env : Environment} {path : Option String}
    {section_ : List (Value × Value)} (found : chosenSection files env path = .ok section_) :
    (load files env path).result = resolve env section_ := by
  rw [result_load, found]
  rfl

/-- Once the section is found, loading gives settings exactly when the value of every field is valid
and the section has no foreign key, and they hold what validation makes of these values. Otherwise
the first field whose value is not valid is refused with that value, and only when there is none,
the first foreign key. What the environment gives for a field masks whatever the section has under
its name, and it matters neither to the values of the other fields nor to the choice of the file. -/
theorem load_from_sources {files : Files} {env : Environment} {path : Option String}
    {section_ : List (Value × Value)} (found : chosenSection files env path = .ok section_) :
    (∀ s, (load files env path).result = .ok s ↔
      Reads (raw env section_) s ∧ ∀ e ∈ section_, ∃ name ∈ fieldNames, e.1 = .text name) ∧
    (match firstInvalid? (raw env section_), firstForeign? section_ with
      | some (field, c), _ => ∃ r, (load files env path).result = .error r ∧
          Refused field (raw env section_ field) c r
      | none, some (key, v, c) => ∃ r, (load files env path).result = .error r ∧
          Refused key v c r
      | none, none => ∃ s, (load files env path).result = .ok s) ∧
    ∀ field ∈ fieldNames,
      (∀ text files' path' v, env (variableOf field) = some text →
        chosenSection files' env path' = .ok (Value.insert (.text field) v section_) →
        (load files' env path').result = (load files env path).result) ∧
      ∀ text, chosenSection files (env.set (variableOf field) text) path = .ok section_ ∧
        ∀ other ∈ fieldNames, other ≠ field →
          raw (env.set (variableOf field) text) section_ other = raw env section_ other := by
  rw [result_load_of_section found]
  refine ⟨fun s => ?_, resolve_first env section_, fun field hfield =>
    ⟨fun text files' path' v given found' => ?_, fun text => ⟨?_, fun other hother hne => ?_⟩⟩⟩
  · rw [resolve_eq_ok_iff, onlyKnown_eq_valid_iff]
  · rw [result_load_of_section found', resolve_insert hfield given]
  · rw [chosenSection_set hfield, found]
  · exact raw_set hfield hother hne text section_

/-- The section of a file that holds a document of the one format. -/
theorem chosenSection_of_json {files : Files} {path : String} {octets : List UInt8}
    {text : List Char} {document : Value} {section_ : List (Value × Value)} (env : Environment)
    (hpath : path ≠ "") (stands : files (Path.plain path) = .file octets)
    (named : DocumentFormat.ofPath? (Path.plain path) = some .json)
    (decoded : (Text.Utf8.decode octets).toOption = some text)
    (read : Json.read (Text.unifyLineEnds text) = .ok document)
    (found : sectionOf (Path.plain path) document = .ok section_) :
    chosenSection files env (some path) = .ok section_ := by
  have hchosen : chosenPath env (some path) = some path := by
    simp [chosenPath, Option.filter, hpath]
  have hdocument := readDocument_of_json stands named decoded read
  rw [chosenSection, hchosen]
  simp only [readSection, hdocument, found]
  rfl

/-- A settings file with a value that is not valid, one that is, and a foreign key. -/
def retryText : String :=
  "\x7b\"collector\": \x7b\"enabled\": 7, \"max_workers\": \"2\", \"retries\": 1\x7d\x7d"

/-- With the first field given by the environment, the foreign key is what is refused. -/
theorem load_from_sources_retryText :
    let files := Files.only "settings.json" retryText.toUTF8.toList
    let env : Environment := fun v => if v = "GRIDPULSE_ENABLED" then some "off" else none
    chosenSection files env (some "settings.json") =
      .ok [(.text "enabled", .int 7), (.text "max_workers", .text "2"), (.text "retries", .int 1)] ∧
    ∃ r, (load files env (some "settings.json")).result = .error r ∧
      Refused "retries" (.int 1) .extra r := by
  intro files env
  have decoded : (Text.Utf8.decode retryText.toUTF8.toList).toOption = some retryText.toList := by
    decide +kernel
  have read : Json.read (Text.unifyLineEnds retryText.toList) = .ok (.mapping [(.text "collector",
      .mapping [(.text "enabled", .int 7), (.text "max_workers", .text "2"),
        (.text "retries", .int 1)])]) := by
    with_unfolding_all rfl
  have named : DocumentFormat.ofPath? (Path.plain "settings.json") = some .json := by
    with_unfolding_all rfl
  have stands : files (Path.plain "settings.json") = .file retryText.toUTF8.toList := by
    with_unfolding_all rfl
  have found := chosenSection_of_json env (by decide) stands named decoded read rfl
  have refused := (load_from_sources found).2.1
  have valid : firstInvalid? (raw env [(.text "enabled", .int 7), (.text "max_workers", .text "2"),
      (.text "retries", .int 1)]) = none := by
    with_unfolding_all rfl
  rw [valid] at refused
  exact ⟨found, refused⟩

/-- An integer with too many digits to be shown, in the place of a truth value, is refused with an
error from below. -/
theorem resolve_of_unshown {n : Int} (fits : fitsWord n = false)
    (unwritable : Number.isWritable n = false) :
    resolve (fun _ => none) [(.text "enabled", .int n)] =
      .error (.ofMishap (.value (Number.tooManyDigits none))) := by
  have hraw : raw (fun _ => none) [(.text "enabled", .int n)] "enabled" = .int n := rfl
  have hbool : complaint? bool (.int n) = some .notBool := by
    rw [complaint?, Field.bool, fits]
    rfl
  have hfirst : firstInvalid? (raw (fun _ => none) [(.text "enabled", .int n)]) =
      some ("enabled", .notBool) := by
    simp only [firstInvalid?, checks, List.findSome?_cons, hraw, hbool, Option.map_some]
  have refused := resolve_first (fun _ => none) [(.text "enabled", .int n)]
  simp only [hfirst, hraw] at refused
  obtain ⟨r, hr, outcome⟩ := refused
  cases outcome with
  | shown writable => exact absurd (unwritable.symm.trans writable) Bool.false_ne_true
  | unshown _ => exact hr

/-- A section whose first value is an integer of that kind gives neither settings nor a failure of
the configuration. -/
theorem resolve_vast_integer : ∃ r,
    resolve (fun _ => none) [(.text "enabled", .int (Nat.pow 16 3600 : Nat))] = .error r ∧
      r.failure.isConfiguration = false :=
  ⟨_, resolve_of_unshown (by decide +kernel) (by decide +kernel), rfl⟩

end Settings

end MapMetrics
