import MapMetrics.Value

/-!
# The shape of documents

In a document the keys of sets and mappings have no parts, pairs stand in lists only, and what meets
itself again has parts. A value of this shape keeps it when its knots are opened.
-/

namespace MapMetrics

namespace Value

/-- A value without parts. -/
def isScalar : Value → Bool
  | null | bool _ | int _ | float _ | text _ | bytes _ | date _ | moment _ => true
  | _ => false

/-- A value of the shape that documents have. An item of a list may be a pair. -/
inductive Shaped : (isItem : Bool) → Value → Prop where
  /-- A value without parts. -/
  | scalar {isItem : Bool} {v : Value} (h : v.isScalar = true) : Shaped isItem v
  /-- A list. -/
  | list {isItem : Bool} {items : List Value} (h : ∀ v ∈ items, Shaped true v) :
      Shaped isItem (.list items)
  /-- A pair in a list. -/
  | pair {a b : Value} (first : Shaped false a) (second : Shaped false b) :
      Shaped true (.pair a b)
  /-- A set. -/
  | set {isItem : Bool} {keys : List Value} (h : ∀ k ∈ keys, k.isScalar = true) :
      Shaped isItem (.set keys)
  /-- A mapping. -/
  | mapping {isItem : Bool} {entries : List (Value × Value)}
      (keys : ∀ e ∈ entries, e.1.isScalar = true) (values : ∀ e ∈ entries, Shaped false e.2) :
      Shaped isItem (.mapping entries)
  /-- A list or mapping that is met again inside of itself. -/
  | knot {isItem : Bool} {label : Nat} {inside : Value} (h : Shaped false inside)
      (filled : inside.isFilled = true) : Shaped isItem (.knot label inside)
  /-- The list or mapping of a knot around. -/
  | again {isItem : Bool} {label : Nat} : Shaped isItem (.again label)

/-- What may stand anywhere may stand in a list. -/
theorem Shaped.item {isItem : Bool} {v : Value} (h : Shaped false v) : Shaped isItem v := by
  cases h with
  | scalar h => exact .scalar h
  | list h => exact .list h
  | set h => exact .set h
  | mapping keys values => exact .mapping keys values
  | knot h filled => exact .knot h filled
  | again => exact .again

theorem tieItems_eq_map (label : Nat) (whole : Value) (items : List Value) :
    tieItems label whole items = items.map (tie label whole) := by
  induction items with
  | nil => rfl
  | cons v rest ih => rw [tieItems, ih, List.map_cons]

theorem tieEntries_eq_map (label : Nat) (whole : Value) (entries : List (Value × Value)) :
    tieEntries label whole entries = entries.map fun e => (e.1, tie label whole e.2) := by
  induction entries with
  | nil => rfl
  | cons e rest ih => rw [tieEntries, ih, List.map_cons]

theorem tie_of_isScalar {v : Value} (h : v.isScalar = true) (label : Nat) (whole : Value) :
    tie label whole v = v := by
  cases v <;> first | rfl | cases h

theorem opened_of_isScalar {v : Value} (h : v.isScalar = true) : v.opened = v := by
  cases v <;> first | rfl | cases h

/-- Tying a knot fills and empties nothing. -/
theorem isFilled_tie {label : Nat} {whole : Value} (hwhole : whole.isFilled = true) (v : Value) :
    (tie label whole v).isFilled = v.isFilled := by
  cases v with
  | list items =>
    rw [tie, tieItems_eq_map]
    cases items <;> rfl
  | mapping entries =>
    rw [tie, tieEntries_eq_map]
    cases entries <;> rfl
  | knot l inside =>
    rw [tie]
    split <;> rfl
  | again l =>
    rw [tie]
    split
    · exact hwhole
    · rfl
  | _ => rfl

/-- Tying a knot keeps the shape. -/
theorem Shaped.tied {isItem : Bool} {label : Nat} {whole v : Value} (h : Shaped isItem v)
    (hwhole : Shaped false whole) (hfilled : whole.isFilled = true) :
    Shaped isItem (tie label whole v) := by
  induction h with
  | scalar h =>
    rw [tie_of_isScalar h]
    exact .scalar h
  | list h ih =>
    rw [tie, tieItems_eq_map]
    refine .list fun v hv => ?_
    obtain ⟨item, hitem, rfl⟩ := List.mem_map.mp hv
    exact ih item hitem
  | pair first second ihfirst ihsecond => exact .pair ihfirst ihsecond
  | set h => exact .set h
  | mapping keys values ih =>
    rw [tie, tieEntries_eq_map]
    refine .mapping (fun e he => ?_) fun e he => ?_
    · obtain ⟨entry, hentry, rfl⟩ := List.mem_map.mp he
      exact keys entry hentry
    · obtain ⟨entry, hentry, rfl⟩ := List.mem_map.mp he
      exact ih entry hentry
  | knot h filled ih =>
    rw [tie]
    split
    · exact .knot h filled
    · exact .knot ih ((isFilled_tie hfilled _).trans filled)
  | again =>
    rw [tie]
    split
    · exact hwhole.item
    · exact .again

/-- What a knot opens to has the shape of documents and has parts. -/
theorem Shaped.opened {v : Value} (h : Shaped false v) :
    Shaped false v.opened ∧ v.opened.isFilled = v.isFilled := by
  cases h with
  | scalar h =>
    rw [opened_of_isScalar h]
    exact ⟨.scalar h, rfl⟩
  | list h => exact ⟨.list h, rfl⟩
  | set h => exact ⟨.set h, rfl⟩
  | mapping keys values => exact ⟨.mapping keys values, rfl⟩
  | knot h filled => exact ⟨h.tied (.knot h filled) rfl, (isFilled_tie rfl _).trans filled⟩
  | again => exact ⟨.again, rfl⟩

/-- What stands under a name in a mapping has the shape of documents. -/
theorem Shaped.field {isItem : Bool} {name : String} {entries : List (Value × Value)} {v : Value}
    (h : Shaped isItem (.mapping entries)) (hgiven : field? name entries = some v) :
    v.Shaped false := by
  cases h with
  | scalar h => cases h
  | mapping keys values =>
    obtain ⟨entry, hentry, rfl⟩ := Option.map_eq_some_iff.mp hgiven
    exact values entry (List.mem_of_find?_eq_some hentry)

end Value

end MapMetrics
