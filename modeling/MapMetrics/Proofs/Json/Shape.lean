import MapMetrics.Json.Document
import MapMetrics.Proofs.Loading.Shape
import MapMetrics.Proofs.Table

/-!
# The shape of JSON documents

What has been read of a document has the shape of documents after each lexeme, and so has the
document when all of it has been read.
-/

namespace MapMetrics

open Value

namespace Json

/-- Words stand for values without parts. -/
theorem isScalar_of_readWord? {cs : List Char} {v : Value} {used : Nat}
    (h : readWord? cs = some (v, used)) : v.isScalar = true := by
  obtain ⟨w, hw, hv⟩ := Option.map_eq_some_iff.mp h
  obtain ⟨rfl, -⟩ := Prod.mk.inj hv
  have hwords : ∀ w ∈ words, w.2.isScalar = true := by
    simp [words, isScalar]
  exact hwords w (List.mem_of_find?_eq_some hw)

/-- Numbers are values without parts. -/
theorem isScalar_of_readNumber? {cs : List Char} {v : Value} {used : Nat}
    (h : readNumber? cs = some (v, used)) : v.isScalar = true := by
  unfold readNumber? at h
  split at h
  all_goals
    obtain ⟨⟨number, _⟩, -, hv⟩ := Option.map_eq_some_iff.mp h
    cases number <;> (obtain ⟨rfl, -⟩ := Prod.mk.inj hv; rfl)

theorem eq_of_checked {v w : Value} {digits : Nat} {rest : List Char}
    (h : checked v digits rest = .scalar w) : v = w := by
  unfold checked at h
  split at h
  · split at h
    · cases h
    · exact Token.scalar.inj h
  · exact Token.scalar.inj h

theorem isScalar_of_token {c : Char} {rest : List Char} {v : Value}
    (h : (token c rest).1 = .scalar v) : v.isScalar = true := by
  unfold token at h
  split at h
  case h_7 =>
    split at h <;> cases h
  case h_8 =>
    split at h
    · case h_1 w used found =>
      obtain rfl := eq_of_checked h
      rcases Option.or_eq_some_iff.mp found with hw | ⟨-, hn⟩
      · exact isScalar_of_readWord? hw
      · exact isScalar_of_readNumber? hn
    · cases h
  all_goals cases h

/-- The values among lexemes have no parts. -/
theorem isScalar_of_mem_lexemes {cs : List Char} {lexeme : Lexeme} {v : Value}
    (hl : lexeme ∈ lexemes cs) (h : lexeme.token = .scalar v) : v.isScalar = true := by
  induction cs using lexemes.induct with
  | case1 =>
    rw [lexemes] at hl
    cases hl
  | case2 c rest hspace ih =>
    rw [lexemes, if_pos hspace] at hl
    exact ih hl
  | case3 c rest hspace read ih =>
    rw [lexemes, if_neg hspace] at hl
    rcases List.mem_cons.mp hl with rfl | hl
    · exact isScalar_of_token h
    · exact ih hl

/-- Entries that have been read. -/
def EntriesShaped (entries : List (Value × Value)) : Prop :=
  ∀ e ∈ entries, e.1.isScalar = true ∧ Shaped false e.2

/-- What waits for a value has the shape of documents so far. -/
def Open.Shaped : Open → Prop
  | .list items => ∀ v ∈ items, v.Shaped true
  | .member entries _ => EntriesShaped entries

/-- What has been read has the shape of documents so far. -/
def State.Shaped : State → Prop
  | value outer | firstItem outer | firstKey outer => ∀ o ∈ outer, o.Shaped
  | key entries outer | colon entries _ outer | afterMember entries outer =>
    EntriesShaped entries ∧ ∀ o ∈ outer, o.Shaped
  | afterItem items outer => (∀ v ∈ items, v.Shaped true) ∧ ∀ o ∈ outer, o.Shaped
  | finished document => document.Shaped false

namespace State

variable {outer : List Open} {lexeme : Lexeme} {next : State}

/-- A value that is there takes its place in what waited for it. -/
theorem shaped_deliver {v : Value} (hv : v.Shaped false) (houter : ∀ o ∈ outer, o.Shaped) :
    (deliver v outer).Shaped := by
  cases outer with
  | nil => exact hv
  | cons o outer =>
    obtain ⟨hfirst, hrest⟩ := List.forall_mem_cons.mp houter
    cases o with
    | list items => exact ⟨List.forall_mem_cons.mpr ⟨hv.item, hfirst⟩, hrest⟩
    | member entries k =>
      exact ⟨forall_mem_insert (P := fun k => k.isScalar = true) (Q := Value.Shaped false) rfl
        hv hfirst, hrest⟩

theorem shaped_beginValue (hlexeme : ∀ v, lexeme.token = .scalar v → v.isScalar = true)
    (houter : ∀ o ∈ outer, o.Shaped) (h : beginValue outer lexeme = .ok next) : next.Shaped := by
  rw [beginValue] at h
  split at h
  · exact Except.ok.inj h ▸ houter
  · exact Except.ok.inj h ▸ houter
  · exact Except.ok.inj h ▸ shaped_deliver (.scalar rfl) houter
  · case h_4 v hv => exact Except.ok.inj h ▸ shaped_deliver (.scalar (hlexeme v hv)) houter
  · cases h
  · cases h

theorem shaped_beginMember {entries : List (Value × Value)} (hentries : EntriesShaped entries)
    (houter : ∀ o ∈ outer, o.Shaped) (h : beginMember entries outer lexeme = .ok next) :
    next.Shaped := by
  rw [beginMember] at h
  split at h
  · exact Except.ok.inj h ▸ ⟨hentries, houter⟩
  · cases h
  · cases h

/-- Each lexeme keeps the shape of what has been read. -/
theorem shaped_step {state : State} (hstate : state.Shaped)
    (hlexeme : ∀ v, lexeme.token = .scalar v → v.isScalar = true)
    (h : step state lexeme = .ok next) : next.Shaped := by
  unfold step at h
  split at h
  · exact shaped_beginValue hlexeme hstate h
  · exact Except.ok.inj h ▸ shaped_deliver (.list (List.forall_mem_nil _)) hstate
  · have hempty : (Open.list []).Shaped := List.forall_mem_nil _
    exact shaped_beginValue hlexeme (List.forall_mem_cons.mpr ⟨hempty, hstate⟩) h
  · exact Except.ok.inj h ▸ shaped_deliver
      (.mapping (List.forall_mem_nil _) (List.forall_mem_nil _)) hstate
  · exact shaped_beginMember (List.forall_mem_nil _) hstate h
  · exact shaped_beginMember hstate.1 hstate.2 h
  · exact Except.ok.inj h ▸ List.forall_mem_cons.mpr hstate
  · exact Except.ok.inj h ▸ List.forall_mem_cons.mpr hstate
  · refine Except.ok.inj h ▸ shaped_deliver (.list fun v hv => ?_) hstate.2
    exact hstate.1 v (List.mem_reverse.mp hv)
  · exact Except.ok.inj h ▸ hstate
  · exact Except.ok.inj h ▸ shaped_deliver
      (.mapping (fun e he => (hstate.1 e he).1) fun e he => (hstate.1 e he).2) hstate.2
  · cases h

theorem shaped_foldlM {state : State} {ls : List Lexeme} (hstate : state.Shaped)
    (hls : ∀ lexeme ∈ ls, ∀ v, lexeme.token = .scalar v → v.isScalar = true)
    (h : ls.foldlM step state = .ok next) : next.Shaped := by
  induction ls generalizing state with
  | nil => exact Except.ok.inj h ▸ hstate
  | cons lexeme rest ih =>
    obtain ⟨hlexeme, hrest⟩ := List.forall_mem_cons.mp hls
    rw [List.foldlM_cons] at h
    cases hstep : step state lexeme with
    | error e => rw [hstep] at h; cases h
    | ok after =>
      rw [hstep] at h
      exact ih (shaped_step hstate hlexeme hstep) hrest h

end State

/-- A document in the one format has the shape of documents. -/
theorem shaped_of_read {cs : List Char} {v : Value} (h : read cs = .ok v) : v.Shaped false := by
  rw [read] at h
  split at h
  · cases h
  · cases hstate : (lexemes cs).foldlM State.step (.value []) with
    | error e => rw [hstate] at h; cases h
    | ok state =>
      rw [hstate] at h
      have hstart : (State.value []).Shaped := List.forall_mem_nil _
      have hshaped := State.shaped_foldlM hstart
        (fun lexeme hl v => isScalar_of_mem_lexemes hl) hstate
      change State.finish state = .ok v at h
      cases state with
      | finished document => exact Except.ok.inj h ▸ hshaped
      | _ => cases h

end Json

end MapMetrics
