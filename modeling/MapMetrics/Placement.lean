/-!
# Placing by number

A table has a fixed number of places. What is to be placed has a number, and the number leads to
places: to that of its remainder and the nine behind, as long as there are so many, and then on to
others, each time by some more of its binary digits. The first free place is taken. So what has
been placed stands in the order of the remainders, but for collisions.
-/

namespace MapMetrics

/-- Places, each free or taken. -/
abbrev Placement (α : Type) := Array (Option α)

namespace Placement

variable {α : Type}

/-- The first free place of those that are tried in a row from a place on. -/
def freeFrom? (table : Placement α) (place : Nat) : Option Nat :=
  let tried := if place + 9 < table.size then 10 else 1
  (List.range' place tried).find? fun i => table[i]?.join.isNone

/-- The first free place that a number leads to from a place on. Every step uses up five digits of
the number; without digits the steps lead through all places. The fuel is the number of steps. -/
def freePlace? (table : Placement α) : Nat → Nat → Nat → Option Nat
  | 0, _, _ => none
  | fuel + 1, number, place =>
    match table.freeFrom? place with
    | some i => some i
    | none =>
      freePlace? table fuel (number / 32) ((5 * place + 1 + number / 32) % table.size)

/-- Places something by a number of at most 64 digits. -/
def put (number : Nat) (a : α) (table : Placement α) : Placement α :=
  match table.freePlace? (table.size + 13) number (number % table.size) with
  | some i => table.setIfInBounds i (some a)
  | none => table

/-- What has been placed, in order. -/
def toList (table : Placement α) : List α :=
  Array.toList table |>.filterMap id

/-- Things with numbers placed one after another among free places. -/
def ofList (places : Nat) (numbered : List (Nat × α)) : Placement α :=
  numbered.foldl (fun table e => table.put e.1 e.2) (Array.replicate places none)

/-- What stands in a table after something has been placed stood there before, or has been
placed. -/
theorem mem_of_mem_put {number : Nat} {a b : α} {table : Placement α}
    (h : some b ∈ table.put number a) : some b ∈ table ∨ b = a := by
  unfold put at h
  split at h
  · obtain h | h := Array.mem_or_eq_of_mem_setIfInBounds h
    · exact .inl h
    · exact .inr (Option.some.inj h)
  · exact .inl h

/-- What stands in a table has been placed there. -/
theorem mem_of_mem_ofList {places : Nat} {numbered : List (Nat × α)} {b : α}
    (h : b ∈ (ofList places numbered).toList) : ∃ e ∈ numbered, e.2 = b := by
  have hplaced (table : Placement α) (others : List (Nat × α))
      (h : some b ∈ others.foldl (fun table e => table.put e.1 e.2) table) :
      some b ∈ table ∨ ∃ e ∈ others, e.2 = b := by
    induction others generalizing table with
    | nil => exact .inl h
    | cons e rest ih =>
      rcases ih _ h with hput | ⟨f, hf, rfl⟩
      · rcases mem_of_mem_put hput with htable | rfl
        · exact .inl htable
        · exact .inr ⟨e, List.mem_cons_self, rfl⟩
      · exact .inr ⟨f, List.mem_cons_of_mem _ hf, rfl⟩
  obtain ⟨o, ho, rfl⟩ := List.mem_filterMap.mp h
  rcases hplaced _ _ (Array.mem_toList_iff.mp ho) with hfree | hsome
  · rw [Array.mem_replicate] at hfree
    cases hfree.2
  · exact hsome

end Placement

end MapMetrics
