/-!
Operations that work on a state and may fail. What an operation has done to the state before it
fails stays done.
-/

namespace TunnelKeeper

/-- An operation on `σ` that gives an `α` or fails with an `ε`. -/
def Attempt (ε σ α : Type) : Type := σ → Except ε α × σ

namespace Attempt

variable {ε ε' σ ω α β : Type}

def done (a : α) : Attempt ε σ α := fun s => (.ok a, s)

def fail (e : ε) : Attempt ε σ α := fun s => (.error e, s)

/-- Goes on with what `x` gives, unless it fails. -/
def andThen (x : Attempt ε σ α) (f : α → Attempt ε σ β) : Attempt ε σ β := fun s =>
  match x s with
  | (.ok a, s) => f a s
  | (.error e, s) => (.error e, s)

instance : Monad (Attempt ε σ) where
  pure := done
  bind := andThen

def get : Attempt ε σ σ := fun s => (.ok s, s)

def modify (f : σ → σ) : Attempt ε σ Unit := fun s => (.ok (), f s)

/-- Gives the value of `r`, or fails with what `wrap` makes of its error. -/
def ofExcept (wrap : ε' → ε) : Except ε' α → Attempt ε σ α
  | .ok a => done a
  | .error e => fail (wrap e)

/-- Gives the outcome of `x`, also where it fails. -/
def capture (x : Attempt ε σ α) : Attempt ε' σ (Except ε α) := fun s =>
  let (r, s) := x s
  (.ok r, s)

/-- Does `x` on a part of the state, and fails with what `wrap` makes of its error. -/
def onPart (view : ω → σ) (put : σ → ω → ω) (wrap : ε → ε') (x : Attempt ε σ α) :
    Attempt ε' ω α := fun w =>
  match x (view w) with
  | (.ok a, s) => (.ok a, put s w)
  | (.error e, s) => (.error (wrap e), put s w)

/-- Does `x`, and fails with what `wrap` makes of its error. -/
def mapError (wrap : ε → ε') (x : Attempt ε σ α) : Attempt ε' σ α := fun s =>
  match x s with
  | (.ok a, s) => (.ok a, s)
  | (.error e, s) => (.error (wrap e), s)

@[simp] theorem pure_apply (a : α) (s : σ) : (pure a : Attempt ε σ α) s = (.ok a, s) := rfl

@[simp] theorem fail_apply (e : ε) (s : σ) : (fail e : Attempt ε σ α) s = (.error e, s) := rfl

@[simp] theorem get_apply (s : σ) : (get : Attempt ε σ σ) s = (.ok s, s) := rfl

@[simp] theorem modify_apply (f : σ → σ) (s : σ) : (modify f : Attempt ε σ Unit) s = (.ok (), f s) :=
  rfl

theorem bind_apply (x : Attempt ε σ α) (f : α → Attempt ε σ β) (s : σ) :
    (x >>= f) s = match x s with
      | (.ok a, s) => f a s
      | (.error e, s) => (.error e, s) := rfl

@[simp] theorem capture_apply (x : Attempt ε σ α) (s : σ) :
    (capture x : Attempt ε' σ (Except ε α)) s = (.ok (x s).1, (x s).2) := rfl

/-- An operation on a part gives an outcome exactly as it does on the part alone. -/
theorem onPart_apply (view : ω → σ) (put : σ → ω → ω) (wrap : ε → ε') (x : Attempt ε σ α) (w : ω) :
    onPart view put wrap x w = ((x (view w)).1.mapError wrap, put (x (view w)).2 w) := by
  unfold onPart
  rcases x (view w) with ⟨r, s⟩
  cases r <;> rfl

end Attempt

end TunnelKeeper
