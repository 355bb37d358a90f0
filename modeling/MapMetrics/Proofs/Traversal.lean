import Mathlib.Data.List.Forall2

/-!
# Reading items one after another

A list is read item by item, and the first item that cannot be read ends the reading. So it is read
exactly when every item is, each as what stands at its place in the result, and otherwise it fails
as its first unreadable item does.
-/

namespace MapMetrics

variable {ε α β : Type} {f : α → Except ε β}

/-- All items are read, one after another. -/
theorem mapM_eq_ok_iff {xs : List α} {ys : List β} :
    xs.mapM f = .ok ys ↔ List.Forall₂ (fun x y => f x = .ok y) xs ys := by
  induction xs generalizing ys with
  | nil => cases ys <;> simp [pure, Except.pure]
  | cons x rest ih =>
    rw [List.mapM_cons]
    constructor
    · intro h
      cases hx : f x with
      | error e => rw [hx] at h; cases h
      | ok y =>
        rw [hx] at h
        cases hr : rest.mapM f with
        | error e => rw [hr] at h; cases h
        | ok others =>
          rw [hr] at h
          cases h
          exact .cons hx (ih.mp hr)
    · intro h
      cases h with
      | cons hx hr =>
        rw [hx, ih.mpr hr]
        rfl

/-- What has been read item by item has been read at every position. -/
theorem exists_ok_of_mapM {xs : List α} {ys : List β} (h : xs.mapM f = .ok ys) (i : Nat) (x : α)
    (hx : xs[i]? = some x) : ∃ y, f x = .ok y := by
  obtain ⟨hi, rfl⟩ := List.getElem?_eq_some_iff.mp hx
  have hread := mapM_eq_ok_iff.mp h
  exact ⟨_, hread.get hi (hread.length_eq ▸ hi)⟩

/-- Items that can be read are read, each as something with the property that it has alone. -/
theorem exists_mapM_eq_ok {R : α → β → Prop} {xs : List α}
    (h : ∀ x ∈ xs, ∃ y, f x = .ok y ∧ R x y) :
    ∃ ys, xs.mapM f = .ok ys ∧ List.Forall₂ R xs ys := by
  simp only [mapM_eq_ok_iff]
  induction xs with
  | nil => exact ⟨[], .nil, .nil⟩
  | cons x rest ih =>
    obtain ⟨⟨y, hread, hy⟩, hrest⟩ := List.forall_mem_cons.mp h
    obtain ⟨ys, hreads, hys⟩ := ih hrest
    exact ⟨y :: ys, .cons hread hreads, .cons hy hys⟩

/-- Items are read up to the first that fails. -/
theorem exists_of_mapM_error {xs : List α} {e : ε} (h : xs.mapM f = .error e) :
    ∃ (i : Nat) (x : α), xs[i]? = some x ∧ f x = .error e ∧
      ∀ j < i, ∀ y : α, xs[j]? = some y → ∃ b, f y = .ok b := by
  induction xs with
  | nil => cases h
  | cons x rest ih =>
    rw [List.mapM_cons] at h
    cases hx : f x with
    | error e' =>
      rw [hx] at h
      obtain rfl := Except.error.inj h
      exact ⟨0, x, rfl, hx, fun j hj => absurd hj (Nat.not_lt_zero j)⟩
    | ok b =>
      rw [hx] at h
      cases hr : rest.mapM f with
      | ok others => simp [bind, Except.bind, hr, pure, Except.pure] at h
      | error e' =>
        simp only [bind, Except.bind, hr, Except.error.injEq] at h
        subst h
        obtain ⟨i, y, hi, hy, hbefore⟩ := ih hr
        refine ⟨i + 1, y, hi, hy, fun j hj z hz => ?_⟩
        cases j with
        | zero => exact ⟨b, Option.some.inj hz ▸ hx⟩
        | succ j => exact hbefore j (Nat.lt_of_succ_lt_succ hj) z hz

end MapMetrics
