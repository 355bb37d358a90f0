import MapMetrics.DocumentFile
import MapMetrics.Proofs.Query.Outcome

/-!
# What keeps a file from giving a document

A loader is prepared for three things: that nothing stands at a path, that the suffix names no
format, and that a text breaks the rules of its format. What else may happen is listed here, for
every file, every octets in it and any libraries, so that a loader can be held against the whole
list: a path may lead to no file at all, and reading may fail in any other way.

Libraries say what reading fails with. Octets that are no text are among it in both formats, and in
one of them a text that keeps to the rules may ask for a value that does not exist.
-/

namespace MapMetrics

/-- Something stands at a path that gives no document, without a text that breaks a rule. -/
inductive Obstructs [Library] (files : Files) (path : String) : Mishap → Prop where
  /-- A directory stands there. -/
  | directory (stands : files path = .directory) : Obstructs files path (.directory path)
  /-- The path is too long to be looked up. -/
  | tooLong (stands : files path = .tooLong) : Obstructs files path (.pathTooLong path)
  /-- A file stands there, and reading it fails in another way. -/
  | file {octets : List UInt8} {format : DocumentFormat} {m : Mishap}
      (stands : files path = .file octets) (named : DocumentFormat.ofPath? path = some format)
      (failed : Library.read format octets = .error m) (lawful : m.isSyntax = false) :
      Obstructs files path m

/-- What reading a document of a format is documented to fail with. -/
inductive DocumentFormat.Raises : DocumentFormat → Mishap → Prop where
  /-- The octets are no text. -/
  | undecodable {format : DocumentFormat} (e : Text.Utf8.Error) : format.Raises (.undecodable e)
  /-- The text breaks the rules of the format. -/
  | unlawful {format : DocumentFormat} {m : Mishap} (h : m.isSyntax = true) : format.Raises m
  /-- A value that is asked for does not exist. -/
  | value (message : String) : DocumentFormat.yaml.Raises (.value message)

/-- A file stands at a path, or nothing, and reading it fails with nothing but what is documented. -/
structure ReadsAsDocumented [Library] (files : Files) (path : String) : Prop where
  /-- No directory stands there. -/
  noDirectory : files path ≠ .directory
  /-- The path can be looked up. -/
  notTooLong : files path ≠ .tooLong
  /-- Reading fails as documented. -/
  raises {octets : List UInt8} {format : DocumentFormat} {m : Mishap} :
    files path = .file octets → DocumentFormat.ofPath? path = some format →
      Library.read format octets = .error m → format.Raises m

/-- A file whose reading fails once as documented does so always. -/
theorem ReadsAsDocumented.of_failed [Library] {files : Files} {path : String}
    {octets : List UInt8} {format : DocumentFormat} {m : Mishap} (stands : files path = .file octets)
    (named : DocumentFormat.ofPath? path = some format)
    (failed : Library.read format octets = .error m) (documented : format.Raises m) :
    ReadsAsDocumented files path where
  noDirectory := by simp [stands]
  notTooLong := by simp [stands]
  raises stands' named' failed' := by
    obtain rfl := FileEntry.file.inj (stands.symm.trans stands')
    obtain rfl := Option.some.inj (named.symm.trans named')
    exact Except.error.inj (failed.symm.trans failed') ▸ documented

/-- The standard libraries fail to show exactly what has too many digits. -/
theorem Library.unshown?_eq (v : Value) :
    Library.unshown? v =
      if v.isWritable then none else some (.value (Number.tooManyDigits none)) := rfl

/-- The standard libraries fail to show a value with an error of the value. -/
theorem Library.exists_message_of_unshown? {v : Value} {m : Mishap}
    (h : Library.unshown? v = some m) : ∃ message, m = .value message := by
  rw [Library.unshown?_eq] at h
  split at h
  · cases h
  · exact ⟨_, (Option.some.inj h).symm⟩

/-- A single file and nothing else. -/
def Files.only (path : String) (octets : List UInt8) : Files := fun p =>
  if p = path then .file octets else .absent

/-- An error of a computation that renames its errors is the new name of an error. -/
private theorem mapError_eq_error_iff {ε ε' α : Type} {f : ε → ε'} {x : Except ε α} {e' : ε'} :
    x.mapError f = .error e' ↔ ∃ e, x = .error e ∧ f e = e' := by
  cases x <;> simp

/-- A path gives no document although something stands there and breaks no rule exactly when it is
obstructed. -/
theorem readDocument_unreadable_iff [Library] (files : Files) (path : String) (m : Mishap) :
    readDocument files path = .error (.unreadable m) ∧ m.isSyntax = false ↔
      Obstructs files path m := by
  constructor
  · rintro ⟨failed, lawful⟩
    rw [readDocument] at failed
    cases stands : files path with
    | absent => simp [stands] at failed
    | directory =>
      simp only [stands, Except.error.injEq, DocumentError.unreadable.injEq] at failed
      exact failed ▸ .directory stands
    | tooLong =>
      simp only [stands, Except.error.injEq, DocumentError.unreadable.injEq] at failed
      exact failed ▸ .tooLong stands
    | file octets =>
      cases named : DocumentFormat.ofPath? path with
      | none => simp [stands, named] at failed
      | some format =>
        simp only [stands, named] at failed
        obtain ⟨m', refused, same⟩ := mapError_eq_error_iff.1 failed
        obtain rfl := DocumentError.unreadable.inj same
        exact .file stands named refused lawful
  · intro obstructed
    cases obstructed with
    | directory stands => exact ⟨by rw [readDocument, stands], rfl⟩
    | tooLong stands => exact ⟨by rw [readDocument, stands], rfl⟩
    | file stands named refused lawful =>
      refine ⟨?_, lawful⟩
      simp only [readDocument, stands, named]
      exact mapError_eq_error_iff.2 ⟨m, refused, rfl⟩

/-- If reading fails as documented, then what obstructs a path is octets that are no text, or a
value that does not exist in a file of the one format that asks for values. -/
theorem Obstructs.of_documented [Library] {files : Files} {path : String} {m : Mishap}
    (h : Obstructs files path m) (documented : ReadsAsDocumented files path) :
    (∃ e, m = .undecodable e) ∨
      DocumentFormat.ofPath? path = some .yaml ∧ ∃ message, m = .value message := by
  cases h with
  | directory stands => exact absurd stands documented.noDirectory
  | tooLong stands => exact absurd stands documented.notTooLong
  | file stands named failed lawful =>
    cases documented.raises stands named failed with
    | undecodable e => exact .inl ⟨e, rfl⟩
    | unlawful broken => exact absurd (lawful.symm.trans broken) Bool.false_ne_true
    | value message => exact .inr ⟨named, message, rfl⟩

/-- The error that a computation ends with. -/
def error? {ε α : Type} : Except ε α → Option ε
  | .error e => some e
  | .ok _ => none

/-- With the standard libraries, reading fails as the reader of the format does. -/
theorem Library.read_yaml_of_error? {octets : List UInt8} {e : Yaml.Error}
    (h : error? (Yaml.read (Yaml.Feed.ofOctets octets)) = some e) :
    Library.read .yaml octets = .error (.ofYaml e) := by
  refine mapError_eq_error_iff.2 ⟨e, ?_, rfl⟩
  cases read : Yaml.read (Yaml.Feed.ofOctets octets) with
  | error e' =>
    rw [read] at h
    exact congrArg Except.error (Option.some.inj h)
  | ok document =>
    rw [read] at h
    cases h

/-- A file of the one format gives the document that its text holds. -/
theorem readDocument_of_json {files : Files} {path : String} {octets : List UInt8}
    {text : List Char} {document : Value} (stands : files path = .file octets)
    (named : DocumentFormat.ofPath? path = some .json)
    (decoded : (Text.Utf8.decode octets).toOption = some text)
    (read : Json.read (Text.unifyLineEnds text) = .ok document) :
    readDocument files path = .ok document := by
  simp only [readDocument, stands, named, Library.read, DocumentFormat.read,
    eq_ok_of_toOption decoded]
  change ((Json.read (Text.unifyLineEnds text)).mapError _).mapError _ = _
  rw [read]
  rfl

end MapMetrics
