import MapMetrics.Failure

/-!
# Operations that report events

An operation ends with a result or a failure, and in either case with the events up to there, in
the order in which they happened. The operations after a failure do not take place and report
nothing.
-/

namespace MapMetrics

/-- The outcome of an operation that reports events. -/
structure Journal (α : Type) where
  /-- The result, or what was raised instead. -/
  result : Except Raised α
  /-- The events, first to last. -/
  events : List Event

namespace Journal

variable {α β : Type}

/-- An operation after another one. -/
def andThen (x : Journal α) (f : α → Journal β) : Journal β :=
  match x.result with
  | .ok a => ⟨(f a).result, x.events ++ (f a).events⟩
  | .error r => ⟨.error r, x.events⟩

instance : Monad Journal where
  pure a := ⟨.ok a, []⟩
  bind := andThen

/-- Reports an event. -/
def note (level : Level) (message : String) : Journal Unit :=
  ⟨.ok (), [⟨level, message⟩]⟩

/-- Reports events. -/
def notes (events : List Event) : Journal Unit :=
  ⟨.ok (), events⟩

/-- Ends with a failure, which is reported. -/
def raise (failure : Failure) (cause : Option Failure) : Journal α :=
  ⟨.error ⟨failure, cause⟩, failure.events⟩

/-- Ends with what has been raised elsewhere. -/
def throw (r : Raised) : Journal α :=
  ⟨.error r, []⟩

@[simp] theorem result_pure (a : α) : (pure a : Journal α).result = .ok a := rfl

@[simp] theorem events_pure (a : α) : (pure a : Journal α).events = [] := rfl

theorem result_bind (x : Journal α) (f : α → Journal β) :
    (x >>= f).result = x.result.bind fun a => (f a).result := by
  change (x.andThen f).result = _
  unfold andThen
  cases x.result <;> rfl

theorem bind_of_ok {x : Journal α} {f : α → Journal β} {a : α} (h : x.result = .ok a) :
    x >>= f = ⟨(f a).result, x.events ++ (f a).events⟩ := by
  change x.andThen f = _
  rw [andThen, h]

end Journal

end MapMetrics
