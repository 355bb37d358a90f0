import MapMetrics.Validation.Field

/-!
# What validation lets pass

A combined outcome is valid exactly when its parts are, and otherwise has the problems of all of
them. A field that is valid keeps the rule of its reader, whether it has been given or stands at its
default; the reader of a field without parts complains of nothing but the value it is given.
-/

namespace MapMetrics

namespace Outcome

variable {α β : Type}

theorem map_eq_valid_iff {f : α → β} {x : Outcome α} {b : β} :
    f <$> x = valid b ↔ ∃ a, x = valid a ∧ f a = b := by
  cases x <;> simp [Functor.map, map]

@[simp] theorem within_eq_valid_iff {step : Step} {x : Outcome α} {a : α} :
    x.within step = valid a ↔ x = valid a := by
  cases x <;> simp [within]

theorem andThen_eq_valid_iff {x : Outcome α} {f : α → Outcome β} {b : β} :
    x.andThen f = valid b ↔ ∃ a, x = valid a ∧ f a = valid b := by
  cases x <;> simp [andThen]

/-- A result with a check beside it is there exactly when it is and the check is passed. -/
theorem seqLeft_eq_valid_iff {x : Outcome α} {y : Outcome β} {a : α} :
    x <* y = valid a ↔ x = valid a ∧ ∃ b, y = valid b := by
  cases x <;> cases y <;> simp [SeqLeft.seqLeft, Functor.map, both, map]

@[simp] theorem problems_within (step : Step) (x : Outcome α) :
    (x.within step).problems = x.problems.map (Problem.within step) := by
  cases x <;> rfl

@[simp] theorem problems_seqLeft (x : Outcome α) (y : Outcome β) :
    (x <* y).problems = x.problems ++ y.problems := by
  cases x <;> cases y <;> simp [SeqLeft.seqLeft, Functor.map, both, map, problems]

@[simp] theorem problems_ofProblems (problems : List Problem) :
    (ofProblems problems).problems = problems := by
  cases problems <;> rfl

end Outcome

namespace Field

open Outcome

/-- A text is read as itself. -/
@[simp] theorem text_text (s : String) : text (.text s) = .valid s := by
  rw [text, written?]
  exact congrArg Outcome.valid String.ofList_toList

theorem bool_text {s : String} {b : Bool} (h : boolWord? s = some b) :
    bool (.text s) = .valid b := by
  unfold Field.bool written?
  simp only [Option.bind_some, String.ofList_toList, h]
  rfl

theorem int_text {s : String} {n : Int} (h : Number.whole s.toList = .ok n) :
    int (.text s) = .valid n := by
  unfold int written?
  simp only [wholeOf, h]

theorem real_text {s : String} {x : Float} (h : Number.real? s.toList = some x) :
    real (.text s) = .valid x := by
  unfold real written?
  simp only [Option.bind_some, h]

theorem someText_text {s : String} (h : s ≠ "") : someText (.text s) = .valid s := by
  have hs : s.isEmpty = false := by simpa using h
  rw [someText, text_text, andThen, hs]
  rfl

theorem positive_float {x : Float} (h : 0.0 < x) : positive (.float x) = .valid x := by
  rw [positive, real, andThen, if_pos h]

theorem atLeast_int {least n : Nat} (h : least ≤ n) : atLeast least (.int n) = .valid n := by
  have hn : (least : Int) ≤ n := Int.ofNat_le.mpr h
  rw [atLeast, int, andThen, if_pos hn, Int.toNat_natCast]

/-- A choice is read from a name under which it is found. -/
theorem choice_text {α : Type} [Named α] {s : String} {m : α} (h : Named.ofName? s = some m) :
    choice (.text s) = .valid m := by
  have hname : ((written? (.text s)).join.bind fun cs =>
      (Named.ofName? (String.ofList cs) : Option α)) = some m := by
    simpa [written?] using h
  rw [choice, hname]

/-- An optional field that is valid has its default or what its reader makes of a value. -/
theorem default_or_read_of_optional {α : Type} {entries : List (Value × Value)} {name : String}
    {default a : α} {read : Value → Outcome α}
    (h : optional entries name default read = .valid a) : a = default ∨ ∃ v, read v = .valid a := by
  rw [optional] at h
  cases found : Value.field? name entries with
  | none =>
    rw [found] at h
    exact Or.inl (Outcome.valid.inj h).symm
  | some v =>
    rw [found] at h
    exact Or.inr ⟨v, within_eq_valid_iff.1 h⟩

/-- What holds of the default and of all that a reader makes of values holds of the field. -/
theorem holds_of_optional {α : Type} {entries : List (Value × Value)} {name : String}
    {default a : α} {read : Value → Outcome α} {P : α → Prop}
    (h : optional entries name default read = .valid a) (hdefault : P default)
    (hread : ∀ v b, read v = .valid b → P b) : P a := by
  obtain rfl | ⟨v, hv⟩ := default_or_read_of_optional h
  · exact hdefault
  · exact hread v a hv

/-- An optional field is what its reader makes of a value, which is that of the default when none is
given. -/
theorem optional_eq_within {α : Type} {entries : List (Value × Value)} {name : String}
    {default : α} {standard : Value} {read : Value → Outcome α}
    (h : read standard = .valid default) :
    optional entries name default read =
      (read ((Value.field? name entries).getD standard)).within (.field name) := by
  rw [optional]
  cases Value.field? name entries with
  | none => rw [Option.getD_none, h, within_valid]
  | some v => rfl

theorem pos_of_positive {v : Value} {x : Float} (h : positive v = .valid x) : 0.0 < x := by
  obtain ⟨y, -, hy⟩ := andThen_eq_valid_iff.1 h
  split at hy
  · case isTrue pos => exact Outcome.valid.inj hy ▸ pos
  · cases hy

theorem ne_empty_of_someText {v : Value} {s : String} (h : someText v = .valid s) : s ≠ "" := by
  obtain ⟨t, -, ht⟩ := andThen_eq_valid_iff.1 h
  split at ht
  · cases ht
  · case isFalse filled =>
    obtain rfl := Outcome.valid.inj ht
    exact fun hs => filled (by rw [hs]; rfl)

theorem le_of_atLeast {least n : Nat} {v : Value} (h : atLeast least v = .valid n) :
    least ≤ n := by
  obtain ⟨i, -, hi⟩ := andThen_eq_valid_iff.1 h
  split at hi
  · case isTrue enough =>
    obtain rfl := Outcome.valid.inj hi
    omega
  · cases hi

theorem closedRecord_mapping {α : Type} {model : String} {known : List String}
    {make : List (Value × Value) → Outcome α} (entries : List (Value × Value)) :
    closedRecord model known make (.mapping entries) = make entries <* onlyKnown known entries :=
  rfl

/-- A record is valid exactly when it is made of the entries of a mapping, and these have no other
keys than its fields. -/
theorem closedRecord_eq_valid_iff {α : Type} {model : String} {known : List String}
    {make : List (Value × Value) → Outcome α} {v : Value} {a : α} :
    closedRecord model known make v = .valid a ↔
      ∃ entries, v.opened = .mapping entries ∧ make entries = .valid a ∧
        onlyKnown known entries = .valid () := by
  rw [closedRecord, record]
  constructor
  · intro h
    split at h
    · case h_1 entries opened =>
      obtain ⟨made, _, known⟩ := seqLeft_eq_valid_iff.mp h
      exact ⟨entries, opened, made, known⟩
    · cases h
  · rintro ⟨entries, opened, made, known⟩
    rw [opened]
    exact seqLeft_eq_valid_iff.mpr ⟨made, (), known⟩

/-! ## Complaints -/

/-- An outcome that is valid, or is one complaint about a value. -/
inductive About {α : Type} (v : Value) : Outcome α → Prop where
  /-- It is valid. -/
  | valid (a : α) : About v (valid a)
  /-- It is a complaint about the value. -/
  | complaint (c : Complaint) : About v (complain v c)

/-- A reader that complains of nothing but the value it is given, and of that once. -/
def Plain {α : Type} (read : Value → Outcome α) : Prop :=
  ∀ v, About v (read v)

section Plain

variable {α β : Type}

/-- A test of what a plain reader makes of a value. -/
theorem Plain.andThen {read : Value → Outcome α} {test : α → Value → Outcome β} (h : Plain read)
    (htest : ∀ a, Plain (test a)) : Plain fun v => (read v).andThen fun a => test a v := by
  intro v
  have hv := h v
  change About v ((read v).andThen fun a => test a v)
  generalize read v = x at hv
  cases hv with
  | valid a => exact htest a v
  | complaint c => exact .complaint c

/-- What may be missing is valid if it is there, and complained of if it is not. -/
theorem about_of_option {v : Value} {f : Option α → Outcome α} {c : Complaint}
    (hnone : f none = complain v c) (hsome : ∀ a, f (some a) = .valid a) (o : Option α) :
    About v (f o) := by
  cases o with
  | none => rw [hnone]; exact .complaint c
  | some a => rw [hsome]; exact .valid a

theorem plain_bool : Plain bool := by
  intro v
  unfold bool
  -- of a number or a word there may be no truth value
  split
  · exact .valid _
  · split
    · exact about_of_option rfl (fun _ => rfl) (boolNumber? _)
    · exact .complaint _
  · split
    · exact about_of_option rfl (fun _ => rfl) (boolNumber? _)
    · exact .complaint _
  · split
    · exact about_of_option rfl (fun _ => rfl) (Option.bind _ _)
    · exact .complaint _

theorem about_wholeOf (v : Value) (cs : List Char) : About v (wholeOf v cs) := by
  rw [wholeOf]
  split
  · exact .valid _
  · exact .complaint _
  · exact .complaint _

theorem plain_int : Plain int := by
  intro v
  unfold int
  split
  · exact .valid _
  · exact .valid _
  · split
    · exact .complaint _
    · split
      · exact .complaint _
      · split
        · exact .valid _
        · exact .complaint _
  · split
    · exact about_wholeOf v _
    · exact .complaint _
    · exact .complaint _

theorem plain_real : Plain real := by
  intro v
  unfold real
  split
  · exact .valid _
  · dsimp only
    split
    · exact .valid _
    · exact .complaint _
  · exact .valid _
  · split
    · split
      · exact .valid _
      · exact .complaint _
    · exact .complaint _

theorem plain_text : Plain text := by
  intro v
  rw [text]
  split
  · exact .valid _
  · exact .complaint _
  · exact .complaint _

theorem plain_choice [Named α] : Plain (choice : Value → Outcome α) := by
  intro v
  rw [choice]
  split
  · exact .valid _
  · exact .complaint _

theorem plain_positive : Plain positive := by
  refine plain_real.andThen fun x v => ?_
  split
  · exact .valid _
  · exact .complaint _

theorem plain_atLeast (least : Nat) : Plain (atLeast least) := by
  refine plain_int.andThen fun n v => ?_
  split
  · exact .valid _
  · exact .complaint _

theorem plain_someText : Plain someText := by
  refine plain_text.andThen fun s v => ?_
  split
  · exact .complaint _
  · exact .valid _

/-- The complaint that a reader has about a value. -/
def complaint? (read : Value → Outcome α) (v : Value) : Option Complaint :=
  (read v).problems.head?.map Problem.complaint

/-- The only problem that a plain reader may have with a value is its complaint about it. -/
theorem Plain.problems {read : Value → Outcome α} (h : Plain read) (v : Value) :
    (read v).problems = ((complaint? read v).map fun c => ⟨[], c, v⟩).toList := by
  have hv := h v
  rw [complaint?]
  generalize read v = x at hv
  cases hv with
  | valid a => rfl
  | complaint c => rfl

end Plain

end Field

end MapMetrics
