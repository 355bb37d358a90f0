import MapMetrics.Table
import MapMetrics.Value
import Mathlib.Data.List.Nodup

/-!
# Tables as mappings

A table of values is a mapping whose keys are its names: what is done to the one is done to the
other. Putting and erasing keep the names of a table distinct, of several values put under a name
the last one stays, and values under new names go to the end. Sorting by names puts them in
ascending order. In a mapping of any keys, too, what is put under a name is found there, and nothing
else changes.
-/

namespace MapMetrics

namespace Table

/-- The names of a table as the keys of objects. -/
def listed (t : Table Value) : List (Value × Value) :=
  t.map fun e => (.text e.1, e.2)

theorem insert_listed (t : Table Value) (name : String) (v : Value) :
    Value.insert (.text name) v t.listed = (t.put name v).listed := by
  induction t with
  | nil => rfl
  | cons e rest ih =>
    obtain ⟨n, w⟩ := e
    change (if (n == name) = true then _ else (Value.text n, w) :: Value.insert _ v (listed rest)) =
      listed (if (n == name) = true then (n, v) :: rest else (n, w) :: put rest name v)
    by_cases h : (n == name) = true
    · rw [if_pos h, if_pos h]
      rfl
    · rw [if_neg h, if_neg h, ih]
      rfl

theorem filter_listed (t : Table Value) (name : String) :
    (t.listed.filter fun e => !e.1.sameKey (.text name)) = (t.erase name).listed := by
  rw [listed, List.filter_map]
  rfl

theorem field?_listed (t : Table Value) (name : String) :
    Value.field? name t.listed = t.get? name := by
  induction t with
  | nil => rfl
  | cons e rest ih =>
    rw [get?_cons, ← ih]
    by_cases h : name = e.1
    · simp [listed, Value.field?, Value.lookup?, h]
    · have hne : ¬ e.1 = name := fun he => h he.symm
      simp [listed, Value.field?, Value.lookup?, h, hne]

/-- Putting a value keeps the names of a table distinct. -/
theorem nodup_names_put {α : Type} {t : Table α} (h : t.names.Nodup) (name : String) (v : α) :
    (t.put name v).names.Nodup := by
  rw [names_put]
  by_cases hm : name ∈ t.names
  · rw [if_pos hm]
    exact h
  · rw [if_neg hm, ← List.concat_eq_append]
    exact List.Nodup.concat hm h

/-- Erasing a name keeps the others distinct. -/
theorem nodup_names_erase {α : Type} {t : Table α} (h : t.names.Nodup) (name : String) :
    (t.erase name).names.Nodup :=
  h.sublist (List.filter_sublist.map _)

/-- What stands in a table with distinct names is found under its name. -/
theorem mem_iff_get? {α : Type} {t : Table α} (h : t.names.Nodup) {name : String} {v : α} :
    (name, v) ∈ t ↔ t.get? name = some v := by
  induction t with
  | nil => simp
  | cons e rest ih =>
    obtain ⟨n, w⟩ := e
    obtain ⟨hn, hrest⟩ := List.nodup_cons.mp h
    rw [List.mem_cons, ih hrest, get?_cons, Prod.mk.injEq]
    by_cases he : name = n
    · subst he
      have hnone : get? rest name = none := by
        rw [← Option.not_isSome_iff_eq_none, ← mem_names_iff]
        exact hn
      simp [hnone, eq_comm]
    · simp [he]

variable {α β : Type}

/-- A table with several values put under their names in turn. -/
def putAll (t : Table α) (entries : List (String × α)) : Table α :=
  entries.foldl (fun t e => t.put e.1 e.2) t

/-- Of several values under a name the last one stays. -/
theorem get?_putAll (t : Table α) (entries : List (String × α)) (name : String) :
    (t.putAll entries).get? name = (get? entries.reverse name).or (t.get? name) := by
  induction entries generalizing t with
  | nil => rfl
  | cons e rest ih =>
    have hlast : get? (rest.reverse ++ [e]) name =
        (get? rest.reverse name).or (get? [e] name) := List.lookup_append
    change ((t.put e.1 e.2).putAll rest).get? name = _
    rw [ih, get?_put, List.reverse_cons, hlast, Option.or_assoc, get?_cons, get?_nil]
    by_cases h : name = e.1 <;> simp [h]

theorem get?_map (t : Table α) (f : α → β) (name : String) :
    get? (t.map fun e => (e.1, f e.2)) name = (t.get? name).map f := by
  induction t with
  | nil => rfl
  | cons e rest ih =>
    rw [List.map_cons, get?_cons, get?_cons, ih]
    by_cases h : name = e.1 <;> simp [h]

/-- What is sorted by names has them in ascending order. -/
theorem pairwise_mergeSort (name : α → String) (items : List α) :
    (items.mergeSort fun a b => name a ≤ name b).Pairwise fun a b => name a ≤ name b := by
  have htrans (a b c : α) (hab : decide (name a ≤ name b) = true)
      (hbc : decide (name b ≤ name c) = true) : decide (name a ≤ name c) = true := by
    rw [decide_eq_true_iff] at hab hbc ⊢
    exact String.le_trans hab hbc
  have htotal (a b : α) : (decide (name a ≤ name b) || decide (name b ≤ name a)) = true := by
    simpa using String.le_total (name a) (name b)
  exact (List.pairwise_mergeSort htrans htotal _).imp of_decide_eq_true

end Table

namespace Value

/-- The same key as a text is that text. -/
theorem eq_of_sameKey_text {key : Value} {name : String}
    (h : key.sameKey (text name) = true) : key = text name := by
  cases key with
  | text s => exact congrArg text (by simpa using h)
  | _ => cases h

theorem field?_cons (name : String) (e : Value × Value) (rest : List (Value × Value)) :
    field? name (e :: rest) = if e.1.sameKey (text name) then some e.2 else field? name rest := by
  rw [field?, lookup?, List.find?_cons]
  cases e.1.sameKey (text name) <;> rfl

/-- Under a name stands what was inserted there, and nothing else changes. -/
theorem field?_insert (name other : String) (v : Value) (entries : List (Value × Value)) :
    field? other (insert (text name) v entries) =
      if other = name then some v else field? other entries := by
  induction entries with
  | nil =>
    by_cases h : other = name
    · simp [insert, field?_cons, h]
    · have hne : ¬ name = other := fun he => h he.symm
      simp [insert, field?_cons, h, hne]
  | cons e rest ih =>
    obtain ⟨key, w⟩ := e
    rw [insert]
    cases same : key.sameKey (text name) with
    | true =>
      obtain rfl := eq_of_sameKey_text same
      by_cases h : other = name
      · simp [field?_cons, h]
      · have hne : ¬ name = other := fun he => h he.symm
        simp [field?_cons, h, hne]
    | false =>
      rw [if_neg Bool.false_ne_true, field?_cons, field?_cons, ih]
      by_cases h : other = name
      · subst h
        simp [same]
      · simp [h]

/-- Where a key is put among entries, what holds of keys and values holds of all of them. -/
theorem forall_mem_insert {α : Type} {P : Value → Prop} {Q : α → Prop} {key : Value} {value : α}
    {entries : List (Value × α)} (hkey : P key) (hvalue : Q value)
    (h : ∀ e ∈ entries, P e.1 ∧ Q e.2) : ∀ e ∈ insert key value entries, P e.1 ∧ Q e.2 := by
  induction entries with
  | nil => exact List.forall_mem_singleton.mpr ⟨hkey, hvalue⟩
  | cons first rest ih =>
    obtain ⟨hfirst, hrest⟩ := List.forall_mem_cons.mp h
    rw [insert]
    split
    · exact List.forall_mem_cons.mpr ⟨⟨hfirst.1, hvalue⟩, hrest⟩
    · exact List.forall_mem_cons.mpr ⟨hfirst, ih hrest⟩

end Value

end MapMetrics
