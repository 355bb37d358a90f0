import MapMetrics.Proofs.Loading.Document
import MapMetrics.Proofs.Validation.Field
import MapMetrics.Settings.Load

/-!
# Loading settings from any file

Whatever stands at the path and whatever the environment holds, loading ends with settings that keep
their rules, with a failure of the configuration, or with an error from below. The errors from below
are those of a file that is obstructed, octets that are no text among them, and that of showing a
value which is refused. This holds with any libraries; with those that fail as they are documented
to, the errors from below are of two kinds.
-/

namespace MapMetrics.Settings

open MapMetrics.Field Outcome

/-- Settings that keep the rules of their fields. -/
structure Valid (s : Settings) : Prop where
  /-- Collections are apart. -/
  interval : 0.0 < s.collectionInterval
  /-- Metrics have a prefix. -/
  metricsPrefix : s.metricsPrefix ≠ ""
  /-- Maps have a service. -/
  mapServiceName : s.mapServiceName ≠ ""
  /-- Somebody works. -/
  maxWorkers : 1 ≤ s.maxWorkers

/-- What validation lets pass keeps the rules. -/
theorem valid_of_ofValue {v : Value} {s : Settings} (h : Model.ofValue v = .valid s) :
    s.Valid := by
  obtain ⟨entries, -, made, -⟩ := closedRecord_eq_valid_iff.mp h
  simp only [seq_eq_valid_iff, map_eq_valid_iff] at made
  obtain ⟨_, workers, ⟨_, _, ⟨_, _, ⟨_, _, ⟨_, service, ⟨_, name, ⟨_, interval,
    ⟨_, -, rfl⟩, hinterval, rfl⟩, hname, rfl⟩, hservice, rfl⟩, -, rfl⟩, -, rfl⟩, -, rfl⟩,
    hworkers, rfl⟩ := made
  exact {
    interval := holds_of_optional hinterval (P := fun x => 0.0 < x) (by decide +kernel)
      fun _ _ => pos_of_positive
    metricsPrefix := holds_of_optional hname (P := fun s => s ≠ "") (by decide)
      fun _ _ => ne_empty_of_someText
    mapServiceName := holds_of_optional hservice (P := fun s => s ≠ "") (by decide)
      fun _ _ => ne_empty_of_someText
    maxWorkers := holds_of_optional hworkers (P := fun n => 1 ≤ n) (by decide)
      fun _ _ => le_of_atLeast }

/-- The section of the file that is chosen, empty if none is. -/
def chosenSection [Library] (files : Files) (env : Environment) (path : Option String) :
    Except Raised (List (Value × Value)) :=
  match chosenPath env path with
  | some p => (readSection files (Path.plain p)).result
  | none => .ok []

/-- The values of a section with those of the environment over them. -/
def combined (env : Environment) (section_ : List (Value × Value)) : Value :=
  .mapping ((overrides env).foldl (fun made e => Value.insert e.1 e.2 made) section_)

/-- An error from below that loading does not turn into a failure of the configuration. -/
inductive Escapes [Library] (files : Files) (env : Environment) (path : Option String) : Mishap → Prop where
  /-- The chosen file is obstructed. -/
  | file {p : String} {m : Mishap} (chosen : chosenPath env path = some p)
      (obstructed : Obstructs files (Path.plain p) m) : Escapes files env path m
  /-- The first value that is refused cannot be shown. -/
  | unshown {section_ : List (Value × Value)} {first : Problem} {rest : List Problem} {m : Mishap}
      (settled : chosenSection files env path = .ok section_)
      (refused : (Model.ofValue (combined env section_) : Outcome Settings) = .invalid first rest)
      (unshown : Library.unshown? first.input = some m) : Escapes files env path m

/-- Reading the chosen file and showing values fail with nothing but what is documented. -/
structure Documented [Library] (files : Files) (env : Environment) (path : Option String) :
    Prop where
  /-- The file is read as documented. -/
  reads {p : String} : chosenPath env path = some p → ReadsAsDocumented files (Path.plain p)
  /-- Showing a value fails with an error of the value. -/
  shows {v : Value} {m : Mishap} : Library.unshown? v = some m → ∃ message, m = .value message

section

variable [Library]

/-- Loading is finding the section and resolving it. -/
theorem result_load (files : Files) (env : Environment) (path : Option String) :
    (load files env path).result = (chosenSection files env path).bind (resolve env) := by
  rw [load, chosenSection]
  cases chosenPath env path with
  | some p =>
    simp only [Journal.result_bind]
    refine congrArg _ (funext fun section_ => ?_)
    cases resolve env section_ <;> rfl
  | none =>
    simp only [Journal.result_bind, Journal.note, Journal.result_pure, Except.bind]
    cases resolve env [] <;> rfl

/-- Resolving is validating the combined values. -/
theorem resolve_eq (env : Environment) (section_ : List (Value × Value)) :
    resolve env section_ = match (Model.ofValue (combined env section_) : Outcome Settings) with
      | .valid s => .ok s
      | .invalid first rest => .error (raised first rest) := by
  unfold resolve combined
  rfl

/-- Settings that come of a section keep their rules. -/
theorem valid_of_resolve {env : Environment} {section_ : List (Value × Value)} {s : Settings}
    (h : resolve env section_ = .ok s) : s.Valid := by
  rw [resolve_eq] at h
  split at h
  · case h_1 read => exact Except.ok.inj h ▸ valid_of_ofValue read
  · cases h

/-- What a section is refused with is a failure of the configuration, unless the first value that
does not fit cannot be shown. -/
theorem resolve_error {env : Environment} {section_ : List (Value × Value)} {r : Raised}
    (h : resolve env section_ = .error r) :
    r.failure.isConfiguration = true ∨ ∃ first rest m,
      (Model.ofValue (combined env section_) : Outcome Settings) = .invalid first rest ∧
      Library.unshown? first.input = some m ∧ r = .ofMishap m := by
  rw [resolve_eq] at h
  split at h
  · cases h
  · case h_2 first rest refused =>
    obtain rfl := Except.error.inj h
    rw [raised]
    cases shown : Library.unshown? first.input with
    | none => exact Or.inl rfl
    | some m => exact Or.inr ⟨first, rest, m, refused, shown, rfl⟩

theorem resolve_of_unshown? {env : Environment} {section_ : List (Value × Value)}
    {first : Problem} {rest : List Problem} {m : Mishap}
    (refused : (Model.ofValue (combined env section_) : Outcome Settings) = .invalid first rest)
    (unshown : Library.unshown? first.input = some m) :
    resolve env section_ = .error (.ofMishap m) := by
  rw [resolve_eq, refused]
  simp only [raised, unshown]

/-- A section that cannot be found is a failure of the configuration or an obstructed file. -/
theorem readSection_error {files : Files} {path : String} {r : Raised}
    (h : (readSection files path).result = .error r) :
    r.failure.isConfiguration = true ∨ ∃ m, Obstructs files path m ∧ r = .ofMishap m := by
  rw [readSection] at h
  split at h
  · exact Or.inl (Except.error.inj h ▸ rfl)
  · exact Or.inl (Except.error.inj h ▸ rfl)
  · case h_3 m failed =>
    split at h
    · exact Or.inl (Except.error.inj h ▸ rfl)
    · case isFalse lawful =>
      have obstructed := (readDocument_unreadable_iff files path m).1
        ⟨failed, Bool.eq_false_iff.2 lawful⟩
      exact Or.inr ⟨m, obstructed, (Except.error.inj h).symm⟩
  · case h_4 document _ =>
    split at h
    · case h_1 f misplaced =>
      obtain rfl := Except.error.inj h
      refine Or.inl ?_
      rw [sectionOf] at misplaced
      split at misplaced
      · cases misplaced
      · split at misplaced <;> cases misplaced
        rfl
      · cases misplaced
        rfl
    · cases h

/-- An obstructed file gives no section. -/
theorem readSection_of_obstructs {files : Files} {path : String} {m : Mishap}
    (h : Obstructs files path m) : (readSection files path).result = .error (.ofMishap m) := by
  obtain ⟨failed, lawful⟩ := (readDocument_unreadable_iff files path m).2 h
  rw [readSection, failed]
  simp only [lawful, Bool.false_eq_true, if_false]
  rfl

/-- Finding the section fails like reading it. -/
theorem chosenSection_error {files : Files} {env : Environment} {path : Option String} {r : Raised}
    (h : chosenSection files env path = .error r) :
    r.failure.isConfiguration = true ∨ ∃ m, Escapes files env path m ∧ r = .ofMishap m := by
  rw [chosenSection] at h
  split at h
  · case h_1 p chosen =>
    obtain configuration | ⟨m, obstructed, rfl⟩ := readSection_error h
    · exact Or.inl configuration
    · exact Or.inr ⟨m, .file chosen obstructed, rfl⟩
  · cases h

/-- Settings that are loaded keep their rules. -/
theorem valid_of_load {files : Files} {env : Environment} {path : Option String} {s : Settings}
    (h : (load files env path).result = .ok s) : s.Valid := by
  rw [result_load] at h
  cases settled : chosenSection files env path with
  | error r =>
    rw [settled] at h
    cases h
  | ok section_ =>
    rw [settled] at h
    exact valid_of_resolve h

/-- Loading fails as a matter of the configuration, or with what escapes. -/
theorem load_error {files : Files} {env : Environment} {path : Option String} {r : Raised}
    (h : (load files env path).result = .error r) :
    r.failure.isConfiguration = true ∨ ∃ m, Escapes files env path m ∧ r = .ofMishap m := by
  rw [result_load] at h
  cases settled : chosenSection files env path with
  | error r' =>
    rw [settled] at h
    obtain rfl := Except.error.inj h
    exact chosenSection_error settled
  | ok section_ =>
    rw [settled] at h
    obtain configuration | ⟨first, rest, m, refused, unshown, rfl⟩ := resolve_error h
    · exact Or.inl configuration
    · exact Or.inr ⟨m, .unshown settled refused unshown, rfl⟩

/-- What escapes ends the loading. -/
theorem result_load_of_escapes {files : Files} {env : Environment} {path : Option String}
    {m : Mishap} (h : Escapes files env path m) :
    (load files env path).result = .error (.ofMishap m) := by
  rw [result_load]
  cases h with
  | file chosen obstructed =>
    rw [chosenSection, chosen]
    simp only [readSection_of_obstructs obstructed]
    rfl
  | unshown settled refused unshown =>
    rw [settled]
    exact resolve_of_unshown? refused unshown

/-- If reading and showing fail as documented, an error that escapes is one of octets that are no
text, or of a value. -/
theorem Escapes.of_documented {files : Files} {env : Environment} {path : Option String}
    {m : Mishap} (h : Escapes files env path m) (documented : Documented files env path) :
    (∃ e, m = .undecodable e) ∨ ∃ message, m = .value message := by
  cases h with
  | file chosen obstructed =>
    exact (obstructed.of_documented (documented.reads chosen)).imp_right And.right
  | unshown settled refused unshown => exact .inr (documented.shows unshown)

end

/-- Loading gives settings that keep their rules, fails as a matter of the configuration, or lets an
error from below escape, whatever the libraries do. These errors are exactly those of an obstructed
file and that of showing a refused value. If reading and showing fail with nothing but what is
documented, they come of octets that are no text, or of a value that does not exist or cannot be
shown. -/
theorem load_valid_or_configuration_or_escapes [Library] (files : Files) (env : Environment)
    (path : Option String) :
    (∀ s, (load files env path).result = .ok s → s.Valid) ∧
    (∀ r, (load files env path).result = .error r → r.failure.isConfiguration = true ∨
      ∃ m, Escapes files env path m ∧ r = .ofMishap m) ∧
    (∀ m, Escapes files env path m → (load files env path).result = .error (.ofMishap m)) ∧
    (Documented files env path → ∀ m, Escapes files env path m →
      (∃ e, m = .undecodable e) ∨ ∃ message, m = .value message) :=
  ⟨fun _ loaded => valid_of_load loaded, fun _ failed => load_error failed,
    fun _ escapes => result_load_of_escapes escapes,
    fun documented _ escapes => escapes.of_documented documented⟩

/-- With the standard libraries, a date in the thirteenth month ends the loading of a settings file
as an error of the date, as it is documented to, and a variable of the environment alone gives
settings that keep their rules. -/
theorem load_thirteenth_month :
    let files := Files.only "settings.yaml" "2020-13-01".toUTF8.toList
    Documented files (fun _ => none) (some "settings.yaml") ∧
    (load files (fun _ => none) (some "settings.yaml")).result =
      .error (.ofMishap (.value "month must be in 1..12")) ∧
    ∃ s, (load (fun _ => .absent) (fun v => if v = "GRIDPULSE_MAX_WORKERS" then some "8" else none)
      none).result = .ok s ∧ s.Valid ∧ s.maxWorkers = 8 := by
  intro files
  have stands : files (Path.plain "settings.yaml") = .file "2020-13-01".toUTF8.toList := by
    with_unfolding_all rfl
  have named : DocumentFormat.ofPath? (Path.plain "settings.yaml") = some .yaml := by
    with_unfolding_all rfl
  have refused : error? (Yaml.read (Yaml.Feed.ofOctets "2020-13-01".toUTF8.toList)) =
      some (.impossible "month must be in 1..12") := by
    decide +kernel
  have failed : Library.read .yaml "2020-13-01".toUTF8.toList =
      .error (.value "month must be in 1..12") := Library.read_yaml_of_error? refused
  have escapes : Escapes files (fun _ => none) (some "settings.yaml")
      (.value "month must be in 1..12") := .file rfl (.file stands named failed rfl)
  have loaded : (load (fun _ => .absent)
      (fun v => if v = "GRIDPULSE_MAX_WORKERS" then some "8" else none) none).result =
      .ok { maxWorkers := 8 } := by
    with_unfolding_all rfl
  refine ⟨⟨fun chosen => ?_, Library.exists_message_of_unshown?⟩,
    (load_valid_or_configuration_or_escapes _ _ _).2.2.1 _ escapes,
    _, loaded, (load_valid_or_configuration_or_escapes _ _ _).1 _ loaded, rfl⟩
  obtain rfl := Option.some.inj (show some "settings.yaml" = some _ from chosen)
  exact .of_failed stands named failed (.value _)

/-- A settings file of one octet that is no text gives neither settings nor a failure of the
configuration. -/
theorem load_stray_octet : ∃ r,
    (load (.only "c.json" [0xE9]) (fun _ => none) (some "c.json")).result = .error r ∧
      r.failure.isConfiguration = false ∧
      r = .ofMishap (.undecodable ⟨.truncated, 0, [0xE9]⟩) :=
  ⟨_, by with_unfolding_all rfl, rfl, rfl⟩

end MapMetrics.Settings
