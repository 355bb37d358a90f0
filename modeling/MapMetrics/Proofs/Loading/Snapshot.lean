import MapMetrics.Proofs.Cluster.Contents
import MapMetrics.Proofs.Loading.Document

/-!
# Loading snapshots from any file

The loader of snapshots is prepared for octets that are no text, and turns every error of the
document's shape and of its records into a failure of the configuration. What still escapes it comes
from reading a document that keeps to the rules of its format: with libraries that fail as they are
documented to, this is the error of a value that does not exist.
-/

namespace MapMetrics.Snapshot

/-- An error from below that loading does not turn into a failure of the configuration. -/
structure Escapes [Library] (files : Files) (path : String) (m : Mishap) : Prop where
  /-- What stands at the path is obstructed. -/
  obstructed : Obstructs files (Path.plain path) m
  /-- It is not octets that are no text. -/
  decodable : ∀ e, m ≠ .undecodable e

/-- A document that is no snapshot is a matter of the configuration. -/
theorem isConfiguration_of_contents_error {document : Value} {r : Raised}
    (h : contents document = .error r) : r.failure.isConfiguration = true := by
  rw [contents] at h
  split at h
  · case h_1 entries _ =>
    cases refused : contentsIn entries with
    | ok k => simp [refused] at h
    | error m =>
      rw [refused] at h
      exact Except.error.inj h ▸ rfl
  · exact Except.error.inj h ▸ rfl

section

variable [Library]

/-- The document at a path is missed for a failure of the configuration, or because it is
obstructed by something other than octets that are no text. -/
theorem readFile_error {files : Files} {path : String} {r : Raised}
    (h : (readFile files path).result = .error r) : r.failure.isConfiguration = true ∨
      ∃ m, (Obstructs files path m ∧ ∀ e, m ≠ .undecodable e) ∧ r = .ofMishap m := by
  rw [readFile] at h
  split at h
  · exact Or.inl (Except.error.inj h ▸ rfl)
  · exact Or.inl (Except.error.inj h ▸ rfl)
  · case h_3 m failed =>
    dsimp only at h
    split at h
    · exact Or.inl (Except.error.inj h ▸ rfl)
    · case h_2 decodable =>
      split at h
      · exact Or.inl (Except.error.inj h ▸ rfl)
      · case isFalse lawful =>
        have obstructed := (readDocument_unreadable_iff files path m).1
          ⟨failed, Bool.eq_false_iff.2 lawful⟩
        exact Or.inr ⟨m, ⟨obstructed, decodable⟩, (Except.error.inj h).symm⟩
  · cases h

/-- Such an obstruction is not caught. -/
theorem readFile_of_obstructs {files : Files} {path : String} {m : Mishap}
    (h : Obstructs files path m) (decodable : ∀ e, m ≠ .undecodable e) :
    (readFile files path).result = .error (.ofMishap m) := by
  obtain ⟨failed, lawful⟩ := (readDocument_unreadable_iff files path m).2 h
  rw [readFile, failed]
  dsimp only
  split
  · case h_1 e => exact absurd rfl (decodable e)
  · rw [lawful]
    rfl

/-- Loading is reading the document and taking its contents for a cluster. -/
theorem result_load (files : Files) (path service : String) :
    (load files path service).result =
      (readFile files (Path.plain path)).result.bind fun document =>
        (contents (document.orElse (.mapping []))).map (·.cluster service) := by
  simp only [load, Journal.result_bind, result_toCluster]

/-- Loading fails as a matter of the configuration, or with what escapes. -/
theorem load_error {files : Files} {path service : String} {r : Raised}
    (h : (load files path service).result = .error r) :
    r.failure.isConfiguration = true ∨ ∃ m, Escapes files path m ∧ r = .ofMishap m := by
  rw [result_load] at h
  cases read : (readFile files (Path.plain path)).result with
  | error r' =>
    rw [read] at h
    obtain rfl := Except.error.inj h
    obtain configuration | ⟨m, ⟨obstructed, decodable⟩, rfl⟩ := readFile_error read
    · exact Or.inl configuration
    · exact Or.inr ⟨m, ⟨obstructed, decodable⟩, rfl⟩
  | ok document =>
    rw [read] at h
    change (contents _).map _ = _ at h
    cases taken : contents (document.orElse (.mapping [])) with
    | ok k => simp [taken, Except.map] at h
    | error r' =>
      rw [taken] at h
      obtain rfl := Except.error.inj h
      exact Or.inl (isConfiguration_of_contents_error taken)

/-- What escapes ends the loading. -/
theorem result_load_of_escapes {files : Files} {path : String} {m : Mishap}
    (h : Escapes files path m) (service : String) :
    (load files path service).result = .error (.ofMishap m) := by
  rw [result_load, readFile_of_obstructs h.obstructed h.decodable]
  rfl

/-- If reading fails as documented, an error that escapes is that of a value, in a file of the one
format that asks for values. -/
theorem Escapes.of_documented {files : Files} {path : String} {m : Mishap}
    (h : Escapes files path m) (documented : ReadsAsDocumented files (Path.plain path)) :
    DocumentFormat.ofPath? (Path.plain path) = some .yaml ∧ ∃ message, m = .value message := by
  refine (h.obstructed.of_documented documented).resolve_left ?_
  exact fun ⟨e, undecodable⟩ => h.decodable e undecodable

end

/-- Loading a snapshot gives a cluster, fails as a matter of the configuration, or lets an error
from below escape, whatever the libraries do. These errors are exactly those of an obstructed file
that do not come of octets that are no text. If reading fails with nothing but what is documented,
they come of a value that does not exist, in a file of the one format that asks for values. -/
theorem load_configuration_or_escapes [Library] (files : Files) (path service : String) :
    (∀ r, (load files path service).result = .error r → r.failure.isConfiguration = true ∨
      ∃ m, Escapes files path m ∧ r = .ofMishap m) ∧
    (∀ m, Escapes files path m → (load files path service).result = .error (.ofMishap m)) ∧
    (ReadsAsDocumented files (Path.plain path) → ∀ m, Escapes files path m →
      DocumentFormat.ofPath? (Path.plain path) = some .yaml ∧ ∃ message, m = .value message) :=
  ⟨fun _ failed => load_error failed, fun _ escapes => result_load_of_escapes escapes service,
    fun documented _ escapes => escapes.of_documented documented⟩

/-- With the standard libraries, a day that does not exist ends the loading of a snapshot as an error
of the day, as it is documented to. -/
theorem load_thirtieth_of_february :
    let files := Files.only "s.yaml" "2021-02-30".toUTF8.toList
    ReadsAsDocumented files (Path.plain "s.yaml") ∧
    (load files "s.yaml" defaultMapService).result =
      .error (.ofMishap (.value "day is out of range for month")) := by
  intro files
  have stands : files (Path.plain "s.yaml") = .file "2021-02-30".toUTF8.toList := by
    with_unfolding_all rfl
  have named : DocumentFormat.ofPath? (Path.plain "s.yaml") = some .yaml := by
    with_unfolding_all rfl
  have refused : error? (Yaml.read (Yaml.Feed.ofOctets "2021-02-30".toUTF8.toList)) =
      some (.impossible "day is out of range for month") := by
    decide +kernel
  have failed : Library.read .yaml "2021-02-30".toUTF8.toList =
      .error (.value "day is out of range for month") := Library.read_yaml_of_error? refused
  exact ⟨.of_failed stands named failed (.value _), (load_configuration_or_escapes _ _ _).2.1 _
    ⟨.file stands named failed rfl, nofun⟩⟩

/-- A snapshot that is a date in the thirteenth month is neither loaded nor a matter of the
configuration. -/
theorem load_impossible_date : ∃ r,
    (load (.only "s.yaml" "2020-13-45".toUTF8.toList) "s.yaml" defaultMapService).result =
      .error r ∧
      r.failure.isConfiguration = false ∧ r = .ofMishap (.value "month must be in 1..12") := by
  have refused : error? (Yaml.read (Yaml.Feed.ofOctets "2020-13-45".toUTF8.toList)) =
      some (.impossible "month must be in 1..12") := by
    decide +kernel
  have failed : Library.read .yaml "2020-13-45".toUTF8.toList =
      .error (.value "month must be in 1..12") := Library.read_yaml_of_error? refused
  have obstructed : Obstructs (.only "s.yaml" "2020-13-45".toUTF8.toList) (Path.plain "s.yaml")
      (.value "month must be in 1..12") :=
    .file (by with_unfolding_all rfl) (by with_unfolding_all rfl) failed rfl
  exact ⟨_, result_load_of_escapes ⟨obstructed, nofun⟩ _, rfl, rfl⟩

end MapMetrics.Snapshot
