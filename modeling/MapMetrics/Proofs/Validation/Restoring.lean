import MapMetrics.Map.Stats
import MapMetrics.Proofs.Table
import MapMetrics.Proofs.Validation.Field
import MapMetrics.Settings.Basic

/-!
# Records are read as they are written down

Fields are forgiving, so that many values are read as one and the same. The value that is written
down for a record is a normal form of all of them: a reader that has made something of any value
makes the same of what is written down for it. This is shown for every kind of field, and it passes
from the fields of a record to the record, so that nothing that was converted, and no default that
stood in for an absent field, is refused or changed when it is read again.
-/

namespace MapMetrics

namespace Field

open Outcome

variable {α : Type}

/-- What a reader has made of any value, it makes of the value written down for it. -/
def Restores (read : Value → Outcome α) (write : α → Value) : Prop :=
  ∀ v a, read v = .valid a → read (write a) = .valid a

variable {read : Value → Outcome α} {write : α → Value}

/-! ## Simple fields -/

theorem restores_bool : Restores bool .bool :=
  fun _ _ _ => rfl

theorem restores_text : Restores text .text :=
  fun _ s _ => text_text s

theorem restores_someText : Restores someText .text :=
  fun _ _ h => someText_text (ne_empty_of_someText h)

theorem restores_positive : Restores positive .float :=
  fun _ _ h => positive_float (pos_of_positive h)

theorem restores_atLeast (least : Nat) : Restores (atLeast least) (fun n => .int n) :=
  fun _ _ h => atLeast_int (le_of_atLeast h)

/-- A choice is restored when every member is found under its name. -/
theorem restores_choice [Named α] (h : ∀ m : α, Named.ofName? (Named.name m) = some m) :
    Restores (choice : Value → Outcome α) (fun m => .text (Named.name m)) :=
  fun _ m _ => choice_text (h m)

/-- A lenient choice, too. -/
theorem restores_lenient [Named α] (words : Vocabulary)
    (h : ∀ m : α, Named.ofText? (Named.name m) = some m) :
    Restores (lenient words : Value → Outcome α) (fun m => .text (Named.name m)) := by
  intro v m _
  rw [lenient, choose, h m]

/-! ## Fields with parts -/

/-- Nothing is written down as nothing, and everything else as something. -/
theorem Restores.perhaps (h : Restores read write) (hwrite : ∀ a, write a ≠ .null) :
    Restores (perhaps read) (fun o => (o.map write).getD .null) := by
  have hsome (v : Value) (hv : v ≠ .null) : Field.perhaps read v = some <$> read v := by
    cases v <;> first | rfl | exact absurd rfl hv
  intro v o hv
  cases o with
  | none => rfl
  | some a =>
    have hread : ∃ w, read w = .valid a := by
      cases v with
      | null => cases hv
      | _ =>
        rw [hsome _ (by simp)] at hv
        obtain ⟨b, hb, hba⟩ := map_eq_valid_iff.mp hv
        exact ⟨_, Option.some.inj hba ▸ hb⟩
    obtain ⟨w, hw⟩ := hread
    change Field.perhaps read (write a) = _
    rw [hsome _ (hwrite a), h w a hw]
    rfl

theorem restores_perhapsText : Restores (perhaps text) Model.perhapsText := by
  have hsame : Model.perhapsText = fun o => (o.map Value.text).getD .null := by
    funext o
    cases o <;> rfl
  rw [hsame]
  exact restores_text.perhaps fun _ => by simp

theorem length_items {first : Nat} {vs : List Value} {as : List α}
    (h : items read first vs = .valid as) : as.length = vs.length := by
  induction vs generalizing first as with
  | nil => cases h; rfl
  | cons v rest ih =>
    rw [items] at h
    obtain ⟨_, others, hf, ho, rfl⟩ := seq_eq_valid_iff.mp h
    obtain ⟨a, -, rfl⟩ := map_eq_valid_iff.mp hf
    exact congrArg (· + 1) (ih ho)

/-- Items are restored one by one, whatever positions they have. -/
theorem Restores.items (h : Restores read write) {first : Nat} {vs : List Value} {as : List α}
    (hread : items read first vs = .valid as) (first' : Nat) :
    Field.items read first' (as.map write) = .valid as := by
  induction vs generalizing first first' as with
  | nil => cases hread; rfl
  | cons v rest ih =>
    rw [Field.items] at hread
    obtain ⟨_, others, hf, ho, rfl⟩ := seq_eq_valid_iff.mp hread
    obtain ⟨a, ha, rfl⟩ := map_eq_valid_iff.mp hf
    rw [List.map_cons, Field.items, ih ho, h v a (within_eq_valid_iff.mp ha)]
    rfl

theorem Restores.sequence (h : Restores read write) :
    Restores (sequence read) (fun as => .list (as.map write)) := by
  intro v as hv
  rw [Field.sequence] at hv
  cases hi : items? v with
  | none => rw [hi] at hv; cases hv
  | some vs =>
    rw [hi] at hv
    exact h.items hv 0

/-- A sequence that has an item keeps it. -/
theorem Restores.someSequence (h : Restores read write) :
    Restores (someSequence read) (fun as => .list (as.map write)) := by
  intro v as hv
  rw [Field.someSequence] at hv
  cases hi : items? v with
  | none => rw [hi] at hv; cases hv
  | some vs =>
    rw [hi] at hv
    obtain ⟨hitems, _, hsome⟩ := seqLeft_eq_valid_iff.mp hv
    have hagain := h.items hitems 0
    cases as with
    | nil =>
      obtain rfl : vs = [] := List.eq_nil_of_length_eq_zero (length_items hitems).symm
      cases hsome
    | cons a rest =>
      have hfirst : read (write a) = .valid a := by
        rw [List.map_cons, Field.items] at hagain
        obtain ⟨_, _, hf, -, hcons⟩ := seq_eq_valid_iff.mp hagain
        obtain ⟨b, hb, rfl⟩ := map_eq_valid_iff.mp hf
        obtain ⟨rfl, -⟩ := List.cons.inj hcons
        exact within_eq_valid_iff.mp hb
      have hvalid : someValid read (.list ((a :: rest).map write)) ((a :: rest).map write) =
          .valid () := by
        rw [someValid, List.map_cons, List.any_cons, hfirst]
        rfl
      change Field.items read 0 ((a :: rest).map write) <* someValid read _ _ = _
      rw [hagain, hvalid]
      rfl

/-! ## Fields of records -/

section Records

variable {name : String} {default a : α} {entries : List (Value × Value)} {dump : Table Value}

/-- A field that is not written down has its default. -/
theorem optional_absent (default : α) (read : Value → Outcome α) (h : dump.get? name = none) :
    optional dump.listed name default read = .valid default := by
  rw [optional, Table.field?_listed, h]

theorem optional_listed (h : dump.get? name = some (write a)) (hread : read (write a) = .valid a) :
    optional dump.listed name default read = .valid a := by
  rw [optional, Table.field?_listed, h]
  exact within_eq_valid_iff.mpr hread

/-- A field that need not be given is restored, with its default, when its default is. -/
theorem Restores.optional (h : Restores read write)
    (hdefault : read (write default) = .valid default)
    (made : optional entries name default read = .valid a)
    (found : dump.get? name = some (write a)) :
    Field.optional dump.listed name default read = .valid a :=
  optional_listed found <|
    holds_of_optional made (P := fun a => read (write a) = .valid a) hdefault fun v a => h v a

/-- A field that must be given is restored. -/
theorem Restores.required (h : Restores read write) (made : required entries name read = .valid a)
    (found : dump.get? name = some (write a)) :
    Field.required dump.listed name read = .valid a := by
  rw [Field.required, within_eq_valid_iff] at made ⊢
  rw [Table.field?_listed, found]
  cases hf : Value.field? name entries with
  | none => rw [hf] at made; cases made
  | some v =>
    rw [hf] at made
    exact h v a made

theorem onlyKnown_listed (dump : Table Value) : onlyKnown dump.names dump.listed = .valid () := by
  have hnone : dump.listed.filterMap (fun e => keyProblem? dump.names e.1 e.2) = [] := by
    refine List.filterMap_eq_nil_iff.mpr fun e he => ?_
    obtain ⟨entry, hentry, rfl⟩ := List.mem_map.mp he
    have hknown : dump.names.contains entry.1 = true :=
      List.contains_iff_mem.mpr (List.mem_map_of_mem hentry)
    exact if_pos hknown
  rw [onlyKnown, hnone]
  rfl

/-- A record is restored when its fields are, from what is written down of it. -/
theorem restores_closedRecord {title : String} {known : List String}
    {make : List (Value × Value) → Outcome α} {dump : α → Table Value}
    (hnames : ∀ a, (dump a).names = known)
    (hmake : ∀ entries a, make entries = .valid a → make (dump a).listed = .valid a) :
    Restores (closedRecord title known make) (fun a => Model.fields (dump a)) := by
  intro v a hv
  obtain ⟨entries, -, made, -⟩ := closedRecord_eq_valid_iff.mp hv
  refine closedRecord_eq_valid_iff.mpr ⟨(dump a).listed, rfl, hmake entries a made, ?_⟩
  rw [← hnames a, onlyKnown_listed]

end Records

end Field

end MapMetrics
