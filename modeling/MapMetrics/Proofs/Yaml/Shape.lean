import MapMetrics.Proofs.Loading.Shape
import MapMetrics.Proofs.Table
import MapMetrics.Yaml.Document

/-!
# The shape of YAML documents

What nodes become has no parts or is a list, set or mapping, and these are filled with keys that
have no parts. Every step from nodes to values keeps to this, whatever is merged or referred to
again, and so what the root unfolds to has the shape of documents.
-/

namespace MapMetrics

open Value

namespace Yaml

/-- What a scalar becomes has no parts. -/
theorem isScalar_of_scalarValue {tag : Tag} {s : String} {v : Value}
    (h : scalarValue tag s = .ok v) : v.isScalar = true := by
  have hmap {α : Type} {x : Except Error α} {f : α → Value} (hf : ∀ a, (f a).isScalar = true)
      (hx : x.map f = .ok v) : v.isScalar = true := by
    cases x with
    | error e => cases hx
    | ok a => exact Except.ok.inj hx ▸ hf a
  cases tag with
  | null => exact Except.ok.inj h ▸ rfl
  | bool => exact hmap (fun _ => rfl) h
  | int => exact hmap (fun _ => rfl) h
  | float => exact hmap (fun _ => rfl) h
  | timestamp =>
    rw [scalarValue, timestampValue] at h
    split at h
    · cases h
    · split at h
      · exact Except.ok.inj h ▸ rfl
      · exact Except.ok.inj h ▸ rfl
      · cases h
  | text => exact Except.ok.inj h ▸ rfl
  | binary => exact hmap (fun _ => rfl) h
  | _ => cases h

/-- A part that is a value has no parts of its own. -/
def Part.Sound : Part → Prop
  | .plain v => v.isScalar = true
  | .collection _ => True

/-- What a list, set or mapping is filled with has keys without parts. -/
def Filling.Sound : Filling → Prop
  | .list items => ∀ p ∈ items, p.Sound
  | .pairs items => ∀ p ∈ items, p.1.Sound ∧ p.2.Sound
  | .set keys => ∀ k ∈ keys, k.isScalar = true
  | .mapping entries => ∀ e ∈ entries, e.1.isScalar = true ∧ e.2.Sound

namespace Assembly

/-- What nodes have become so far has keys without parts. -/
structure Sound (a : Assembly) : Prop where
  /-- The parts. -/
  parts : ∀ (n : Nat) (p : Part), a.parts[n]?.join = some p → p.Sound
  /-- What lists, sets and mappings are filled with. -/
  fillings : ∀ (n : Nat) (f : Filling), a.fillings[n]?.join = some f → f.Sound

/-- A step that keeps this and has results of some kind. -/
def Keeps {α : Type} (x : Step α) (Q : α → Prop) : Prop :=
  ∀ a b r, a.Sound → x.run a = .ok (r, b) → b.Sound ∧ Q r

section Keeps

variable {α β : Type} {Q : α → Prop} {R : β → Prop}

theorem Keeps.pure {r : α} (h : Q r) : Keeps (Pure.pure r : Step α) Q := by
  intro a b r' ha hr
  cases hr
  exact ⟨ha, h⟩

theorem Keeps.bind {x : Step α} {f : α → Step β} (hx : Keeps x Q)
    (hf : ∀ r, Q r → Keeps (f r) R) : Keeps (x >>= f) R := by
  intro a b r ha hr
  rw [StateT.run_bind] at hr
  cases hxa : x.run a with
  | error e => rw [hxa] at hr; cases hr
  | ok out =>
    rw [hxa] at hr
    obtain ⟨hb, hq⟩ := hx a out.2 out.1 ha hxa
    exact hf out.1 hq out.2 b r hb hr

theorem Keeps.map {x : Step α} {f : α → β} (hx : Keeps x Q) (hf : ∀ r, Q r → R (f r)) :
    Keeps (f <$> x) R := by
  rw [map_eq_pure_bind]
  exact .bind hx fun r hr => .pure (hf r hr)

theorem Keeps.throw {e : Error} : Keeps (throw e : Step α) Q := by
  intro a b r _ hr
  cases hr

theorem Keeps.get : Keeps (get : Step Assembly) Sound := by
  intro a b r ha hr
  cases hr
  exact ⟨ha, ha⟩

theorem Keeps.modify {f : Assembly → Assembly} (hf : ∀ a, a.Sound → (f a).Sound) :
    Keeps (modify f : Step Unit) fun _ => True := by
  intro a b r ha hr
  cases hr
  exact ⟨hf a ha, trivial⟩

theorem Keeps.lift {x : Except Error α} (hx : ∀ r, x = .ok r → Q r) :
    Keeps (liftM x : Step α) Q := by
  intro a b r ha hr
  cases x with
  | error e => cases hr
  | ok _ =>
    cases hr
    exact ⟨ha, hx r rfl⟩

theorem Keeps.mapM {f : α → Step β} {xs : List α} (hf : ∀ x ∈ xs, Keeps (f x) R) :
    Keeps (xs.mapM f) fun rs => ∀ r ∈ rs, R r := by
  induction xs with
  | nil => exact .pure (List.forall_mem_nil _)
  | cons x rest ih =>
    obtain ⟨hx, hrest⟩ := List.forall_mem_cons.mp hf
    rw [List.mapM_cons]
    exact .bind hx fun r hr => .bind (ih hrest) fun rs hrs =>
      .pure (List.forall_mem_cons.mpr ⟨hr, hrs⟩)

theorem Keeps.foldlM {f : β → α → Step β} {xs : List α} {start : β}
    (hf : ∀ r, R r → ∀ x ∈ xs, Keeps (f r x) R) (hstart : R start) :
    Keeps (xs.foldlM f start) R := by
  induction xs generalizing start with
  | nil => exact .pure hstart
  | cons x rest ih =>
    rw [List.foldlM_cons]
    exact .bind (hf start hstart x List.mem_cons_self) fun r hr =>
      ih (fun r hr x hx => hf r hr x (List.mem_cons_of_mem _ hx)) hr

theorem Keeps.forM {f : α → Step PUnit} {xs : List α} (hf : ∀ x ∈ xs, Keeps (f x) fun _ => True) :
    Keeps (xs.forM f) fun _ => True := by
  induction xs with
  | nil => exact .pure trivial
  | cons x rest ih =>
    obtain ⟨hx, hrest⟩ := List.forall_mem_cons.mp hf
    exact .bind hx fun _ _ => ih hrest

end Keeps

/-- A node is given its part. -/
theorem Sound.setPart {a : Assembly} (ha : a.Sound) {n : Nat} {p : Part} (hp : p.Sound)
    (waiting : List Nat) :
    Sound { a with parts := a.parts.setIfInBounds n (some p), waiting := waiting } := by
  refine ⟨fun m q hq => ?_, ha.fillings⟩
  dsimp only at hq
  rw [Array.getElem?_setIfInBounds] at hq
  split at hq
  · split at hq
    · exact Option.some.inj hq ▸ hp
    · cases hq
  · exact ha.parts m q hq

/-- A list, set or mapping is filled. -/
theorem Sound.setFilling {a : Assembly} (ha : a.Sound) {n : Nat} {f : Filling} (hf : f.Sound) :
    ({ a with fillings := a.fillings.setIfInBounds n (some f) } : Assembly).Sound := by
  refine ⟨ha.parts, fun m q hq => ?_⟩
  dsimp only at hq
  rw [Array.getElem?_setIfInBounds] at hq
  split at hq
  · split at hq
    · exact Option.some.inj hq ▸ hf
    · cases hq
  · exact ha.fillings m q hq

theorem isScalar_of_plainValue {g : Graph} {n : Nat} {v : Value} (h : plainValue g n = .ok v) :
    v.isScalar = true := by
  unfold plainValue at h
  dsimp only at h
  split at h
  · exact isScalar_of_scalarValue h
  · exact isScalar_of_scalarValue h
  · exact isScalar_of_scalarValue h
  · cases ht : textOf g (g.size + 1) n with
    | error e => rw [ht] at h; cases h
    | ok s => rw [ht] at h; cases h
  · cases ht : textOf g (g.size + 1) n with
    | error e => rw [ht] at h; cases h
    | ok s =>
      rw [ht] at h
      exact isScalar_of_scalarValue h

/-- Nodes become parts. -/
theorem keeps_make (n : Nat) : Keeps (make n) Part.Sound := by
  rw [make]
  refine .bind .get fun a ha => ?_
  split
  · case h_1 part hpart => exact .pure (ha.parts n part hpart)
  · refine .bind .get fun b hb => ?_
    have hdone {part : Part} (hp : part.Sound) (waiting : Assembly → List Nat) :
        Keeps (do
          modify fun a => { a with
            parts := a.parts.setIfInBounds n (some part), waiting := waiting a }
          return part) Part.Sound :=
      .bind (.modify fun c hc => hc.setPart hp _) fun _ _ => .pure hp
    dsimp only
    split
    · exact .bind (.pure (Q := Part.Sound) trivial) fun part hp => hdone hp _
    · refine .bind (.map (.lift fun v => isScalar_of_plainValue) fun v hv => ?_) fun part hp =>
        hdone hp _
      exact hv

theorem keeps_entriesOf? (n : Nat) : Keeps (entriesOf? n) fun _ => True := by
  rw [entriesOf?]
  refine .bind .get fun a _ => ?_
  split
  · exact .pure trivial
  · exact .pure trivial

theorem keeps_mergedFrom {flatten : Nat → Step Unit}
    (h : ∀ n, Keeps (flatten n) fun _ => True) (n : Nat) :
    Keeps (mergedFrom flatten n) fun _ => True := by
  rw [mergedFrom]
  refine .bind (keeps_entriesOf? n) fun entries _ => ?_
  have hrest : Keeps (do
      flatten n
      return (← entriesOf? n).getD []) fun _ => True :=
    .bind (h n) fun _ _ => .bind (keeps_entriesOf? n) fun _ _ => .pure trivial
  dsimp only
  split
  · exact .bind (.throw (Q := fun _ => True)) fun _ _ => hrest
  · exact hrest

theorem keeps_merged {flatten : Nat → Step Unit} (h : ∀ n, Keeps (flatten n) fun _ => True)
    (n : Nat) : Keeps (merged flatten n) fun _ => True := by
  rw [merged]
  refine .bind .get fun a _ => ?_
  split
  · exact .bind (.mapM fun m _ => keeps_mergedFrom h m) fun _ _ => .pure trivial
  · exact keeps_mergedFrom h n

/-- Merging changes nothing about what nodes have become. -/
theorem keeps_flatten (fuel n : Nat) : Keeps (flatten fuel n) fun _ => True := by
  induction fuel generalizing n with
  | zero => exact .throw
  | succ fuel ih =>
    rw [flatten]
    refine .bind .get fun a _ => .bind (keeps_entriesOf? n) fun entries _ => ?_
    dsimp only
    split
    · exact .modify fun b hb => ⟨hb.parts, hb.fillings⟩
    · refine .bind (.modify fun b hb => ⟨hb.parts, hb.fillings⟩) fun _ _ => ?_
      refine .bind (keeps_merged ih _) fun found _ => .bind (ih n) fun _ _ => ?_
      refine .bind (keeps_entriesOf? n) fun own _ => ?_
      exact .modify fun b hb => ⟨hb.parts, hb.fillings⟩

/-- Keys have no parts. -/
theorem keeps_makeKey (n : Nat) : Keeps (makeKey n) fun v => v.isScalar = true := by
  rw [makeKey]
  refine .bind (keeps_make n) fun part hp => ?_
  split
  · exact .pure hp
  · exact .throw

theorem keeps_makeEntries (n : Nat) :
    Keeps (makeEntries n) fun entries => ∀ e ∈ entries, e.1.isScalar = true ∧ e.2.Sound := by
  have hentry (made : List (Value × Part)) (hmade : ∀ e ∈ made, e.1.isScalar = true ∧ e.2.Sound)
      (e : Nat × Nat) : Keeps (do
        let key ← makeKey e.1
        let part ← make e.2
        return Value.insert key part made)
        fun entries => ∀ e ∈ entries, e.1.isScalar = true ∧ e.2.Sound :=
    .bind (keeps_makeKey e.1) fun key hkey => .bind (keeps_make e.2) fun part hp =>
      .pure (forall_mem_insert (P := fun k => k.isScalar = true) (Q := Part.Sound) hkey hp hmade)
  have hrest : Keeps (do
      flatten ((← get).ownEntries + 1) n
      ((← entriesOf? n).getD []).foldlM (fun made e => do
        let key ← makeKey e.1
        let part ← make e.2
        return Value.insert key part made) [])
      fun entries => ∀ e ∈ entries, e.1.isScalar = true ∧ e.2.Sound :=
    .bind .get fun a _ => .bind (keeps_flatten _ n) fun _ _ =>
      .bind (keeps_entriesOf? n) fun entries _ =>
        .foldlM (fun made hmade e _ => hentry made hmade e) (List.forall_mem_nil _)
  rw [makeEntries]
  refine .bind (keeps_entriesOf? n) fun entries _ => ?_
  dsimp only
  split
  · exact .bind (.throw (Q := fun _ => True)) fun _ _ => hrest
  · exact hrest

theorem keeps_makePair (n : Nat) : Keeps (makePair n) fun p => p.1.Sound ∧ p.2.Sound := by
  rw [makePair]
  refine .bind (keeps_entriesOf? n) fun entries _ => ?_
  split
  · exact .bind (keeps_make _) fun first hfirst => .bind (keeps_make _) fun second hsecond =>
      .pure ⟨hfirst, hsecond⟩
  · exact .throw

theorem keeps_makeFilling (n : Nat) : Keeps (makeFilling n) Filling.Sound := by
  rw [makeFilling]
  refine .bind .get fun a _ => ?_
  dsimp only
  split
  · exact .map (.mapM fun m _ => keeps_make m) fun items hitems => hitems
  · exact .map (.mapM fun m _ => keeps_makePair m) fun pairs hpairs => hpairs
  · refine .bind (keeps_makeEntries n) fun entries hentries => .pure fun k hk => ?_
    obtain ⟨e, he, rfl⟩ := List.mem_map.mp hk
    exact (hentries e he).1
  · exact .map (keeps_makeEntries n) fun entries hentries => hentries
  · exact .throw

theorem keeps_fillAll (fuel : Nat) : Keeps (fillAll fuel) fun _ => True := by
  have hfill (n : Nat) : Keeps (fill n) fun _ => True :=
    .bind (keeps_makeFilling n) fun filling hf => .modify fun a ha => ha.setFilling hf
  induction fuel with
  | zero => exact .pure trivial
  | succ fuel ih =>
    rw [fillAll]
    refine .bind .get fun a _ => ?_
    have hrest : Keeps (do
        modify fun a => { a with waiting := [] }
        a.waiting.reverse.forM fill
        fillAll fuel) fun _ => True :=
      .bind (.modify fun b hb => ⟨hb.parts, hb.fillings⟩) fun _ _ =>
        .bind (.forM fun n _ => hfill n) fun _ _ => ih
    dsimp only
    split
    · exact .pure trivial
    · exact hrest

/-- All nodes inside of a node become parts. -/
theorem keeps_makeAll (root : Nat) : Keeps (makeAll root) Part.Sound := by
  rw [makeAll]
  exact .bind (keeps_make root) fun part hp => .bind .get fun a _ =>
    .bind (keeps_fillAll _) fun _ _ => .pure hp

end Assembly

/-! ## Unfolding -/

/-- The values that nodes have so far have the shape of documents. -/
def ValuesShaped (values : Array (Option Value)) : Prop :=
  ∀ (n : Nat) (v : Value), values[n]?.join = some v → v.Shaped false

/-- An unfolding that keeps this and has results of some kind. -/
def Unfolds {α : Type} (x : Unfolding α) (Q : α → Prop) : Prop :=
  ∀ values, ValuesShaped values → ValuesShaped (x.run values).2 ∧ Q (x.run values).1

section Unfolds

variable {α β : Type} {Q : α → Prop} {R : β → Prop}

theorem Unfolds.pure {r : α} (h : Q r) : Unfolds (Pure.pure r : Unfolding α) Q :=
  fun _ hvalues => ⟨hvalues, h⟩

theorem Unfolds.bind {x : Unfolding α} {f : α → Unfolding β} (hx : Unfolds x Q)
    (hf : ∀ r, Q r → Unfolds (f r) R) : Unfolds (x >>= f) R := by
  intro values hvalues
  obtain ⟨hafter, hr⟩ := hx values hvalues
  exact hf _ hr _ hafter

theorem Unfolds.get : Unfolds (get : Unfolding (Array (Option Value))) ValuesShaped :=
  fun _ hvalues => ⟨hvalues, hvalues⟩

theorem Unfolds.modify {f : Array (Option Value) → Array (Option Value)}
    (hf : ∀ values, ValuesShaped values → ValuesShaped (f values)) :
    Unfolds (modify f : Unfolding Unit) fun _ => True :=
  fun values hvalues => ⟨hf values hvalues, trivial⟩

theorem Unfolds.mapM {f : α → Unfolding β} {xs : List α} (hf : ∀ x ∈ xs, Unfolds (f x) R) :
    Unfolds (xs.mapM f) fun rs => ∀ r ∈ rs, R r := by
  induction xs with
  | nil => exact .pure (List.forall_mem_nil _)
  | cons x rest ih =>
    obtain ⟨hx, hrest⟩ := List.forall_mem_cons.mp hf
    rw [List.mapM_cons]
    exact .bind hx fun r hr => .bind (ih hrest) fun rs hrs =>
      .pure (List.forall_mem_cons.mpr ⟨hr, hrs⟩)

end Unfolds

theorem ValuesShaped.set {values : Array (Option Value)} (h : ValuesShaped values) {n : Nat}
    {v : Value} (hv : v.Shaped false) : ValuesShaped (values.setIfInBounds n (some v)) := by
  intro m w hw
  rw [Array.getElem?_setIfInBounds] at hw
  split at hw
  · split at hw
    · exact Option.some.inj hw ▸ hv
    · cases hw
  · exact h m w hw

theorem exists_of_mem_mapM {α β : Type} {f : α → Option β} {xs : List α} {ys : List β}
    (h : xs.mapM f = some ys) : ∀ y ∈ ys, ∃ x ∈ xs, f x = some y := by
  induction xs generalizing ys with
  | nil =>
    cases h
    exact List.forall_mem_nil _
  | cons x rest ih =>
    rw [List.mapM_cons] at h
    obtain ⟨y, hy, h⟩ := Option.bind_eq_some_iff.mp h
    obtain ⟨zs, hzs, h⟩ := Option.bind_eq_some_iff.mp h
    cases h
    refine List.forall_mem_cons.mpr ⟨⟨x, List.mem_cons_self, hy⟩, fun z hz => ?_⟩
    obtain ⟨w, hw, hz⟩ := ih hzs z hz
    exact ⟨w, List.mem_cons_of_mem _ hw, hz⟩

/-- Keys that are put in order are still the same keys. -/
theorem shaped_ofKeys {keys : List Value} (h : ∀ k ∈ keys, k.isScalar = true) :
    (Value.ofKeys keys).Shaped false := by
  rw [Value.ofKeys]
  split
  · case h_1 numbered hnumbered =>
    refine .set fun k hk => ?_
    obtain ⟨e, he, rfl⟩ := Placement.mem_of_mem_ofList hk
    obtain ⟨key, hkey, he⟩ := exists_of_mem_mapM hnumbered e he
    obtain ⟨number, -, rfl⟩ := Option.map_eq_some_iff.mp he
    exact h key hkey
  · exact .set h

/-- What a part unfolds to has the shape of documents. -/
theorem unfolds_unfold {fillings : Array (Option Filling)}
    (hfillings : ∀ (n : Nat) (f : Filling), fillings[n]?.join = some f → f.Sound) (fuel : Nat)
    (around : List Nat) {part : Part} (hpart : part.Sound) :
    Unfolds (part.unfold fillings fuel around) fun u => u.value.Shaped false := by
  induction fuel generalizing around part with
  | zero =>
    cases part with
    | plain v => exact .pure (.scalar hpart)
    | collection n => exact .pure .again
  | succ fuel ih =>
    cases part with
    | plain v => exact .pure (.scalar hpart)
    | collection n =>
      have hfilling : (fillings[n]?.join.getD (.list [])).Sound := by
        cases hf : fillings[n]?.join with
        | none => exact List.forall_mem_nil _
        | some f => exact hfillings n f hf
      have hdone (inside : Unfolded) (hinside : inside.value.Shaped false)
          (hfilled : inside.met ≠ [] → inside.value.isFilled = true) :
          Unfolds (if inside.met.isEmpty then do
              modify fun values => values.setIfInBounds n (some inside.value)
              return inside
            else return ⟨.knot n inside.value, (inside.met.filter (· != n)).eraseDups⟩)
            fun u => u.value.Shaped false := by
        split
        · exact .bind (.modify fun values hvalues => hvalues.set hinside) fun _ _ => .pure hinside
        · case isFalse hmet => exact .pure (.knot hinside (hfilled fun hnil => hmet (hnil ▸ rfl)))
      rw [Part.unfold]
      split
      · exact .pure .again
      refine .bind .get fun values hvalues => ?_
      split
      · case h_1 v hv => exact .pure (hvalues n v hv)
      dsimp only
      split
      · case h_1 items hitems =>
        rw [hitems] at hfilling
        refine .bind (.mapM fun p hp => ih _ (hfilling p hp)) fun found hfound =>
          hdone _ (.list fun v hv => ?_) fun hmet => ?_
        · obtain ⟨u, hu, rfl⟩ := List.mem_map.mp hv
          exact (hfound u hu).item
        · cases found with
          | nil => exact absurd rfl hmet
          | cons u rest => rfl
      · case h_2 pairs hpairs =>
        rw [hpairs] at hfilling
        refine .bind (.mapM (R := fun u => u.1.value.Shaped false ∧ u.2.value.Shaped false)
          fun p hp => .bind (ih _ (hfilling p hp).1) fun first hfirst =>
            .bind (ih _ (hfilling p hp).2) fun second hsecond => .pure ⟨hfirst, hsecond⟩)
          fun found hfound => hdone _ (.list fun v hv => ?_) fun hmet => ?_
        · obtain ⟨u, hu, rfl⟩ := List.mem_map.mp hv
          exact .pair (hfound u hu).1 (hfound u hu).2
        · cases found with
          | nil => exact absurd rfl hmet
          | cons u rest => rfl
      · case h_3 keys hkeys =>
        rw [hkeys] at hfilling
        exact hdone ⟨Value.ofKeys keys, []⟩ (shaped_ofKeys hfilling) fun hmet => absurd rfl hmet
      · case h_4 entries hentries =>
        rw [hentries] at hfilling
        refine .bind (.mapM (R := fun e => e.1.isScalar = true ∧ e.2.value.Shaped false)
          fun e he => .bind (ih _ (hfilling e he).2) fun u hu => .pure ⟨(hfilling e he).1, hu⟩)
          fun found hfound => hdone _ (.mapping (fun e he => ?_) fun e he => ?_) fun hmet => ?_
        · obtain ⟨f, hf, rfl⟩ := List.mem_map.mp he
          exact (hfound f hf).1
        · obtain ⟨f, hf, rfl⟩ := List.mem_map.mp he
          exact (hfound f hf).2
        · cases found with
          | nil => exact absurd rfl hmet
          | cons f rest => rfl

/-- A document in the other format has the shape of documents. -/
theorem shaped_of_read {feed : Feed} {v : Value} (h : read feed = .ok v) : v.Shaped false := by
  rw [read] at h
  cases hnodes : Node.ofTokens (tokens feed) with
  | error e => rw [hnodes] at h; cases h
  | ok nodes =>
    rw [hnodes] at h
    cases nodes with
    | none => exact Except.ok.inj h ▸ .scalar rfl
    | some rooted =>
      obtain ⟨root, g⟩ := rooted
      change g.value root = .ok v at h
      rw [Graph.value] at h
      have hstart : (Assembly.ofGraph g).Sound := by
        refine ⟨fun n p hp => ?_, fun n f hf => ?_⟩
        · rw [Assembly.ofGraph, Array.getElem?_replicate] at hp
          split at hp <;> cases hp
        · rw [Assembly.ofGraph, Array.getElem?_replicate] at hf
          split at hf <;> cases hf
      cases hmade : (Assembly.makeAll root).run (Assembly.ofGraph g) with
      | error e => rw [hmade] at h; cases h
      | ok made =>
        rw [hmade] at h
        obtain ⟨hdone, hpart⟩ := Assembly.keeps_makeAll root _ _ _ hstart hmade
        have hvalues : ValuesShaped (Array.replicate g.size none) := by
          intro n v hv
          rw [Array.getElem?_replicate] at hv
          split at hv <;> cases hv
        exact Except.ok.inj h ▸ (unfolds_unfold hdone.fillings _ _ hpart _ hvalues).2

end Yaml

end MapMetrics
