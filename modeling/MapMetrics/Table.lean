/-!
# Tables

A table holds values under names, each name once, in the order in which the names came. A value
that is put under a name already there takes its place; a new name goes to the end.
-/

namespace MapMetrics

/-- Values under names. -/
abbrev Table (α : Type) := List (String × α)

namespace Table

variable {α : Type}

/-- The value under a name. -/
def get? (t : Table α) (name : String) : Option α :=
  t.lookup name

/-- The table with a value under a name. -/
def put (t : Table α) (name : String) (value : α) : Table α :=
  match t with
  | [] => [(name, value)]
  | (n, v) :: rest => if n == name then (n, value) :: rest else (n, v) :: put rest name value

/-- The table without a name. -/
def erase (t : Table α) (name : String) : Table α :=
  t.filter fun e => e.1 != name

/-- The names in order. -/
def names (t : Table α) : List String :=
  t.map (·.1)

@[simp] theorem get?_nil (name : String) : get? ([] : Table α) name = none := rfl

theorem get?_cons (e : String × α) (t : Table α) (name : String) :
    get? (e :: t) name = if name == e.1 then some e.2 else get? t name := by
  show (match name == e.1 with | true => some e.2 | false => t.lookup name) = _
  cases h : name == e.1 <;> simp [get?]

/-- Under its name stands what was put there last, and nothing else changes. -/
theorem get?_put (t : Table α) (name other : String) (value : α) :
    get? (put t name value) other = if other = name then some value else get? t other := by
  induction t with
  | nil => simp [put, get?_cons]
  | cons e rest ih =>
    obtain ⟨n, v⟩ := e
    by_cases hn : n = name
    · subst hn
      by_cases ho : other = n <;> simp [put, get?_cons, ho]
    · by_cases ho : other = n
      · subst ho
        simp [put, hn, get?_cons]
      · simp [put, hn, get?_cons, ho, ih]

/-- Nothing stands under an erased name, and nothing else changes. -/
theorem get?_erase (t : Table α) (name other : String) :
    get? (erase t name) other = if other = name then none else get? t other := by
  induction t with
  | nil => simp [erase]
  | cons e rest ih =>
    obtain ⟨n, v⟩ := e
    rw [erase] at ih ⊢
    by_cases hn : n = name
    · subst hn
      simp only [List.filter_cons, bne_self_eq_false, Bool.false_eq_true, if_false, ih, get?_cons]
      by_cases ho : other = n <;> simp [ho]
    · simp only [List.filter_cons, bne_iff_ne, ne_eq, hn, not_false_eq_true, if_true, get?_cons, ih]
      by_cases ho : other = n
      · subst ho
        simp [hn]
      · simp [ho]

/-- A name is in the table when something stands under it. -/
theorem mem_names_iff (t : Table α) (name : String) :
    name ∈ names t ↔ (get? t name).isSome = true := by
  induction t with
  | nil => simp [names]
  | cons e rest ih =>
    obtain ⟨n, v⟩ := e
    by_cases h : name = n
    · simp [names, get?_cons, h]
    · simpa [names, get?_cons, h] using ih

/-- Putting keeps the names, and adds a new one at the end. -/
theorem names_put (t : Table α) (name : String) (value : α) :
    names (put t name value) = if name ∈ names t then names t else names t ++ [name] := by
  induction t with
  | nil => simp [names, put]
  | cons e rest ih =>
    obtain ⟨n, v⟩ := e
    by_cases hn : n = name
    · simp [names, put, hn]
    · have hne : ¬ name = n := fun h => hn h.symm
      by_cases hm : name ∈ names rest
      · have hrest : names (put rest name value) = names rest := by simpa [hm] using ih
        have hall : name ∈ names ((n, v) :: rest) := by simp [names] at hm ⊢; exact .inr hm
        rw [if_pos hall]
        simpa [names, put, hn] using hrest
      · have hrest : names (put rest name value) = names rest ++ [name] := by simpa [hm] using ih
        have hall : name ∉ names ((n, v) :: rest) := by
          simp only [names, List.map_cons, List.mem_cons, not_or] at hm ⊢
          exact ⟨hne, hm⟩
        rw [if_neg hall]
        simpa [names, put, hn] using hrest

end Table

end MapMetrics
