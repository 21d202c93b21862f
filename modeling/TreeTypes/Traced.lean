/-!
# Results with a record of events

A run reports what it does while it does it. `Traced` pairs the result of a pure computation with
the events that led to it, so that a failure keeps the events before it. Laws are stated about the
result; `result_bind` says that the record never influences it.
-/

namespace TreeTypes

/-- A result and the events on the way to it. -/
structure Traced (ω ε α : Type) where
  events : List ω
  result : Except ε α

namespace Traced

variable {ω ε α β : Type}

/-- A result without events. -/
def ofExcept (result : Except ε α) : Traced ω ε α := ⟨[], result⟩

/-- Record one event. -/
def log (event : ω) : Traced ω ε Unit := ⟨[event], .ok ()⟩

/-- Go on from a result. -/
def bind (x : Traced ω ε α) (f : α → Traced ω ε β) : Traced ω ε β :=
  match x.result with
  | .error e => ⟨x.events, .error e⟩
  | .ok a => ⟨x.events ++ (f a).events, (f a).result⟩

instance : Monad (Traced ω ε) where
  pure a := ⟨[], .ok a⟩
  bind := bind

/-- Put events in front. -/
def after (events : List ω) (x : Traced ω ε α) : Traced ω ε α :=
  ⟨events ++ x.events, x.result⟩

@[simp] theorem result_pure (a : α) : (pure a : Traced ω ε α).result = .ok a := rfl

@[simp] theorem result_ofExcept (result : Except ε α) :
    (ofExcept result : Traced ω ε α).result = result := rfl

@[simp] theorem result_log (event : ω) : (log event : Traced ω ε Unit).result = .ok () := rfl

@[simp] theorem result_after (events : List ω) (x : Traced ω ε α) :
    (x.after events).result = x.result := rfl

@[simp] theorem result_bind (x : Traced ω ε α) (f : α → Traced ω ε β) :
    (x >>= f).result = (x.result >>= fun a => (f a).result) := by
  change (Traced.bind x f).result = _
  unfold Traced.bind
  cases x.result <;> rfl

end Traced

end TreeTypes
