import TunnelKeeper.Reconcile.Reconciler

/-!
# How an operation came out

An operation made of several calls succeeds if each of them does, and fails if one of them does: the
`_eq_ok` and `_eq_error` equations take such a statement apart, call by call. For what holds however
an operation comes out there is `Triple P x Q E`: from a state in `P` it succeeds with a value and a
state in `Q`, or fails in a state in `E`. One rule for each way to put operations together
(`Triple.bind` and its neighbours) makes the triple of an operation out of those of its calls.
`Preserves I x` is the triple of an operation that keeps `I` whatever happens.
-/

namespace TunnelKeeper

namespace Attempt

variable {ε ε' σ ω α β : Type}

/-! ## Equations -/

/-- A run is known by its result; the state after it need not be worked out. -/
theorem run_eq {x : Attempt ε σ α} {s : σ} {r : Except ε α} (h : (x s).1 = r) :
    x s = (r, (x s).2) :=
  Prod.ext h rfl

theorem exists_run_ok {x : Attempt ε σ α} {s : σ} (h : (x s).1.toOption.isSome = true) :
    ∃ a, x s = (.ok a, (x s).2) := by
  cases hr : (x s).1 with
  | error e =>
    rw [hr] at h
    cases h
  | ok a => exact ⟨a, run_eq hr⟩

theorem bind_of_ok {x : Attempt ε σ α} {f : α → Attempt ε σ β} {s t : σ} {a : α}
    (h : x s = (.ok a, t)) : (x >>= f) s = f a t := by
  rw [bind_apply, h]

theorem bind_of_error {x : Attempt ε σ α} {f : α → Attempt ε σ β} {s t : σ} {e : ε}
    (h : x s = (.error e, t)) : (x >>= f) s = (.error e, t) := by
  rw [bind_apply, h]

theorem bind_eq_ok {x : Attempt ε σ α} {f : α → Attempt ε σ β} {s s' : σ} {b : β} :
    (x >>= f) s = (.ok b, s') ↔ ∃ a t, x s = (.ok a, t) ∧ f a t = (.ok b, s') := by
  rw [bind_apply]
  constructor
  · intro h
    rcases hx : x s with ⟨e | a, t⟩
    · rw [hx] at h
      cases h
    · rw [hx] at h
      exact ⟨a, t, rfl, h⟩
  · rintro ⟨a, t, hx, h⟩
    rw [hx]
    exact h

theorem bind_eq_error {x : Attempt ε σ α} {f : α → Attempt ε σ β} {s s' : σ} {e : ε} :
    (x >>= f) s = (.error e, s') ↔
      x s = (.error e, s') ∨ ∃ a t, x s = (.ok a, t) ∧ f a t = (.error e, s') := by
  rw [bind_apply]
  constructor
  · intro h
    rcases hx : x s with ⟨e' | a, t⟩
    · rw [hx] at h
      obtain ⟨h1, rfl⟩ := Prod.mk.inj h
      exact .inl (by rw [Except.error.inj h1])
    · rw [hx] at h
      exact .inr ⟨a, t, rfl, h⟩
  · rintro (hx | ⟨a, t, hx, h⟩)
    · rw [hx]
    · rw [hx]
      exact h

theorem pure_eq_ok {a b : α} {s s' : σ} :
    (pure a : Attempt ε σ α) s = (.ok b, s') ↔ a = b ∧ s = s' := by
  simp

theorem ofExcept_eq_ok {wrap : ε' → ε} {r : Except ε' α} {s s' : σ} {a : α} :
    (ofExcept wrap r : Attempt ε σ α) s = (.ok a, s') ↔ r = .ok a ∧ s = s' := by
  cases r with
  | error e => simp [ofExcept, fail]
  | ok b => simp [ofExcept, done]

theorem ofExcept_eq_error {wrap : ε' → ε} {r : Except ε' α} {s s' : σ} {e : ε}
    (h : (ofExcept wrap r : Attempt ε σ α) s = (.error e, s')) : s' = s := by
  cases r with
  | error e' => exact (Prod.mk.inj h).2.symm
  | ok b => cases h

theorem onPart_of_ok {view : ω → σ} {put : σ → ω → ω} {wrap : ε → ε'} {x : Attempt ε σ α} {w : ω}
    {a : α} {s : σ} (h : x (view w) = (.ok a, s)) :
    onPart view put wrap x w = (.ok a, put s w) := by
  rw [onPart_apply, h]
  rfl

theorem onPart_of_error {view : ω → σ} {put : σ → ω → ω} {wrap : ε → ε'} {x : Attempt ε σ α} {w : ω}
    {e : ε} {s : σ} (h : x (view w) = (.error e, s)) :
    onPart view put wrap x w = (.error (wrap e), put s w) := by
  rw [onPart_apply, h]
  rfl

theorem onPart_eq_ok {view : ω → σ} {put : σ → ω → ω} {wrap : ε → ε'} {x : Attempt ε σ α} {w w' : ω}
    {a : α} :
    onPart view put wrap x w = (.ok a, w') ↔ ∃ s, x (view w) = (.ok a, s) ∧ put s w = w' := by
  rw [onPart_apply]
  constructor
  · intro h
    rcases hx : x (view w) with ⟨e | b, s⟩
    · rw [hx] at h
      cases h
    · rw [hx] at h
      obtain ⟨h1, h2⟩ := Prod.mk.inj h
      exact ⟨s, by rw [Except.ok.inj h1], h2⟩
  · rintro ⟨s, hx, rfl⟩
    rw [hx]
    rfl

theorem onPart_eq_error {view : ω → σ} {put : σ → ω → ω} {wrap : ε → ε'} {x : Attempt ε σ α}
    {w w' : ω} {e : ε'} (h : onPart view put wrap x w = (.error e, w')) :
    ∃ e' s, x (view w) = (.error e', s) ∧ put s w = w' := by
  rw [onPart_apply] at h
  rcases hx : x (view w) with ⟨e' | b, s⟩
  · rw [hx] at h
    exact ⟨e', s, rfl, (Prod.mk.inj h).2⟩
  · rw [hx] at h
    cases h

/-! ## Triples -/

/-- From a state in `P` the operation succeeds with a value and a state in `Q`, or fails in a state
in `E`. -/
def Triple (P : σ → Prop) (x : Attempt ε σ α) (Q : α → σ → Prop) (E : σ → Prop) : Prop :=
  ∀ s, P s → (∀ a, (x s).1 = .ok a → Q a (x s).2) ∧ (∀ e, (x s).1 = .error e → E (x s).2)

variable {x : Attempt ε σ α} {P P' : σ → Prop} {Q Q' : α → σ → Prop} {R : β → σ → Prop}
  {E E' : σ → Prop}

theorem Triple.ok (h : Triple P x Q E) {s s' : σ} {a : α} (hs : P s)
    (hx : x s = (.ok a, s')) : Q a s' := by
  have := (h s hs).1 a (by rw [hx])
  rwa [hx] at this

theorem Triple.error (h : Triple P x Q E) {s s' : σ} {e : ε} (hs : P s)
    (hx : x s = (.error e, s')) : E s' := by
  have := (h s hs).2 e (by rw [hx])
  rwa [hx] at this

/-- A triple is about the outcomes of the operation, one by one. -/
theorem Triple.intro {x : Attempt ε σ α}
    (hok : ∀ s s' a, P s → x s = (.ok a, s') → Q a s')
    (herror : ∀ s s' e, P s → x s = (.error e, s') → E s') : Triple P x Q E :=
  fun s hs =>
    ⟨fun a ha => hok s _ a hs (Prod.ext ha rfl), fun e he => herror s _ e hs (Prod.ext he rfl)⟩

theorem Triple.weaken (h : Triple P x Q E) (hP : ∀ s, P' s → P s)
    (hQ : ∀ a s, Q a s → Q' a s) (hE : ∀ s, E s → E' s) : Triple P' x Q' E' :=
  fun s hs =>
    ⟨fun a ha => hQ a _ ((h s (hP s hs)).1 a ha), fun e he => hE _ ((h s (hP s hs)).2 e he)⟩

theorem Triple.pre (h : Triple P x Q E) (hP : ∀ s, P' s → P s) :
    Triple P' x Q E := h.weaken hP (fun _ _ h => h) (fun _ h => h)

theorem Triple.post (h : Triple P x Q E) (hQ : ∀ a s, Q a s → Q' a s) :
    Triple P x Q' E := h.weaken (fun _ h => h) hQ (fun _ h => h)

theorem Triple.bind {f : α → Attempt ε σ β} (hx : Triple P x Q E)
    (hf : ∀ a, Triple (Q a) (f a) R E) : Triple P (x >>= f) R E := by
  refine .intro ?_ ?_
  · intro s s' b hs hb
    obtain ⟨a, t, ha, hb⟩ := bind_eq_ok.1 hb
    exact (hf a).ok (hx.ok hs ha) hb
  · intro s s' e hs he
    rcases bind_eq_error.1 he with he | ⟨a, t, ha, he⟩
    · exact hx.error hs he
    · exact (hf a).error (hx.ok hs ha) he

/-- As `Triple.bind`, where the first part fails in states of its own. -/
theorem Triple.bindTo {f : α → Attempt ε σ β} (hx : Triple P x Q E') (hE : ∀ s, E' s → E s)
    (hf : ∀ a, Triple (Q a) (f a) R E) : Triple P (x >>= f) R E :=
  (hx.weaken (fun _ h => h) (fun _ _ h => h) hE).bind hf

/-- What is known before the operation may be used in its proof. -/
theorem Triple.fact {φ : Prop} (hP : ∀ s, P s → φ) (h : φ → Triple P x Q E) : Triple P x Q E :=
  fun s hs => h (hP s hs) s hs

theorem Triple.of_and {φ : Prop} (h : φ → Triple P x Q E) : Triple (fun s => P s ∧ φ) x Q E :=
  .fact (fun _ hs => hs.2) fun hφ => (h hφ).pre fun _ hs => hs.1

theorem Triple.pure {a : α} (h : ∀ s, P s → Q a s) :
    Triple P (Pure.pure a : Attempt ε σ α) Q E :=
  .intro (fun s s' b hs hb => by obtain ⟨rfl, rfl⟩ := pure_eq_ok.1 hb; exact h s hs)
    (fun s s' e _ he => by cases he)

theorem Triple.get : Triple P (Attempt.get : Attempt ε σ σ) (fun t s => P s ∧ t = s) E :=
  .intro (fun s s' t hs ht => by obtain ⟨rfl, rfl⟩ : s = t ∧ s = s' := by simpa using ht
                                 exact ⟨hs, rfl⟩)
    (fun s s' e _ he => by cases he)

theorem Triple.modify {f : σ → σ} {R : Unit → σ → Prop} (h : ∀ s, P s → R () (f s)) :
    Triple P (Attempt.modify f : Attempt ε σ Unit) R E :=
  .intro (fun s s' u hs hu => by
      have hs' : f s = s' := (Prod.mk.inj hu).2
      exact hs' ▸ h s hs)
    (fun s s' e _ he => by cases he)

theorem Triple.fail {e : ε} (h : ∀ s, P s → E s) : Triple P (Attempt.fail e : Attempt ε σ α) Q E :=
  .intro (fun s s' a _ ha => by cases ha)
    (fun s s' e' hs he => by
      have hs' : s = s' := (Prod.mk.inj he).2
      exact hs' ▸ h s hs)

theorem Triple.ofExcept {wrap : ε' → ε} {r : Except ε' α} (hok : ∀ a s, r = .ok a → P s → Q a s)
    (herror : ∀ s, P s → E s) : Triple P (Attempt.ofExcept wrap r : Attempt ε σ α) Q E :=
  .intro (fun s s' a hs ha => by obtain ⟨hr, rfl⟩ := ofExcept_eq_ok.1 ha; exact hok a s hr hs)
    (fun s s' e hs he => by rw [ofExcept_eq_error he]; exact herror s hs)

/-- Going on with a value that may be an error. -/
theorem Triple.bindExcept {wrap : ε' → ε} {r : Except ε' α} {f : α → Attempt ε σ β}
    (hE : ∀ s, P s → E s) (hf : ∀ a, r = .ok a → Triple P (f a) R E) :
    Triple P (Attempt.ofExcept wrap r >>= f) R E := by
  refine Triple.bind (Q := fun a s => P s ∧ r = .ok a) ?_ fun a => .of_and fun ha => hf a ha
  exact .ofExcept (fun a s ha hs => ⟨hs, ha⟩) hE

/-- Looking at the outcome of an operation, also where it fails. -/
theorem Triple.capture (h : Triple P x Q E) {E'' : σ → Prop} :
    Triple P (Attempt.capture x : Attempt ε' σ (Except ε α))
      (fun r s => (∀ a, r = .ok a → Q a s) ∧ (∀ e, r = .error e → E s)) E'' := by
  refine .intro ?_ ?_
  · intro s s' r hs hr
    obtain ⟨h1, h2⟩ := Prod.mk.inj ((capture_apply x s).symm.trans hr)
    rw [← Except.ok.inj h1, ← h2]
    exact h s hs
  · intro s s' e hs he
    cases (Prod.mk.inj ((capture_apply x s).symm.trans he)).1

theorem mapError_eq_ok {wrap : ε → ε'} {x : Attempt ε σ α} {s s' : σ} {a : α} :
    mapError wrap x s = (.ok a, s') ↔ x s = (.ok a, s') := by
  unfold mapError
  rcases x s with ⟨_ | b, t⟩ <;> simp

theorem mapError_of_error {wrap : ε → ε'} {x : Attempt ε σ α} {s t : σ} {e : ε}
    (h : x s = (.error e, t)) : mapError wrap x s = (.error (wrap e), t) := by
  rw [mapError, h]

theorem mapError_eq_error {wrap : ε → ε'} {x : Attempt ε σ α} {s s' : σ} {e : ε'}
    (h : mapError wrap x s = (.error e, s')) : ∃ e', x s = (.error e', s') := by
  unfold mapError at h
  rcases hx : x s with ⟨e' | b, t⟩
  · rw [hx] at h
    exact ⟨e', by rw [(Prod.mk.inj h).2]⟩
  · rw [hx] at h
    cases h

theorem Triple.mapError {wrap : ε → ε'} (h : Triple P x Q E) :
    Triple P (Attempt.mapError wrap x) Q E :=
  .intro (fun _ _ _ hs ha => h.ok hs (mapError_eq_ok.1 ha))
    (fun _ _ _ hs he => by obtain ⟨e', he'⟩ := mapError_eq_error he; exact h.error hs he')

/-! ## What is kept -/

/-- The operation keeps `I`, however it comes out. -/
def Preserves (I : σ → Prop) (x : Attempt ε σ α) : Prop := ∀ s, I s → I (x s).2

section Preserves

variable {I : σ → Prop}

theorem Preserves.triple (h : Preserves I x) : Triple I x (fun _ => I) I :=
  fun s hs => ⟨fun _ _ => h s hs, fun _ _ => h s hs⟩

theorem Triple.preserves (h : Triple I x (fun _ => I) I) : Preserves I x := by
  intro s hs
  cases hx : (x s).1 with
  | ok a => exact (h s hs).1 a hx
  | error e => exact (h s hs).2 e hx

theorem Preserves.bind {f : α → Attempt ε σ β} (hx : Preserves I x) (hf : ∀ a, Preserves I (f a)) :
    Preserves I (x >>= f) :=
  (hx.triple.bind fun a => (hf a).triple).preserves

theorem Preserves.pure (a : α) : Preserves I (Pure.pure a : Attempt ε σ α) := fun _ hs => hs

theorem Preserves.fail (e : ε) : Preserves I (Attempt.fail e : Attempt ε σ α) := fun _ hs => hs

theorem Preserves.get : Preserves I (Attempt.get : Attempt ε σ σ) := fun _ hs => hs

theorem Preserves.ofExcept (wrap : ε' → ε) (r : Except ε' α) :
    Preserves I (Attempt.ofExcept wrap r : Attempt ε σ α) :=
  (Triple.ofExcept (fun _ _ _ hs => hs) fun _ hs => hs).preserves

theorem Preserves.capture (h : Preserves I x) :
    Preserves I (Attempt.capture x : Attempt ε' σ (Except ε α)) := h

theorem Preserves.mapError (wrap : ε → ε') (h : Preserves I x) :
    Preserves I (Attempt.mapError wrap x) := h.triple.mapError.preserves

end Preserves

end Attempt

/-! ## Calls -/

namespace Reconciler

variable {κ σ δ ε ε' α : Type} {w w' : World κ σ δ} {a : α}

theorem ask_apply (wrap : ε' → ε) (x : World κ σ δ → Except ε' α) (w : World κ σ δ) :
    ask wrap x w = ((x w).mapError wrap, w) := by
  rw [ask, Attempt.bind_of_ok (Attempt.get_apply w)]
  cases x w with
  | error e => rfl
  | ok a => rfl

theorem ask_eq_ok {wrap : ε' → ε} {x : World κ σ δ → Except ε' α} :
    ask wrap x w = (.ok a, w') ↔ x w = .ok a ∧ w = w' := by
  simp only [ask, Attempt.bind_eq_ok, Attempt.get_apply, Prod.mk.injEq, Except.ok.injEq,
    Attempt.ofExcept_eq_ok]
  constructor
  · rintro ⟨v, t, ⟨rfl, rfl⟩, h⟩
    exact h
  · exact fun h => ⟨w, w, ⟨rfl, rfl⟩, h⟩

theorem ask_eq_error {wrap : ε' → ε} {x : World κ σ δ → Except ε' α} {e : ε}
    (h : ask wrap x w = (.error e, w')) : w' = w := by
  rcases Attempt.bind_eq_error.1 h with h | ⟨v, t, hv, h⟩
  · cases h
  · obtain ⟨-, rfl⟩ : w = v ∧ w = t := by simpa using hv
    exact Attempt.ofExcept_eq_error h

theorem unregister_apply (id : Uuid) (w : World κ σ δ) :
    (unregister id : Attempt ε (World κ σ δ) Unit) w
      = (.ok (), { w with registry := w.registry.erase id }) := rfl

theorem onKernel_apply (wrap : KernelError → ε) (x : Attempt KernelError κ α) (w : World κ σ δ) :
    onKernel wrap x w
      = ((x w.kernel).1.mapError wrap, { w with kernel := (x w.kernel).2 }) :=
  Attempt.onPart_apply _ _ _ _ _

theorem onKernel_of_ok {wrap : KernelError → ε} {x : Attempt KernelError κ α} {k : κ}
    (h : x w.kernel = (.ok a, k)) : onKernel wrap x w = (.ok a, { w with kernel := k }) :=
  Attempt.onPart_of_ok h

theorem onKernel_of_error {wrap : KernelError → ε} {x : Attempt KernelError κ α} {e : KernelError}
    {k : κ} (h : x w.kernel = (.error e, k)) :
    onKernel wrap x w = (.error (wrap e), { w with kernel := k }) :=
  Attempt.onPart_of_error h

theorem onDevices_of_ok {wrap : StoreError → ε} {x : Attempt StoreError δ α} {t : δ}
    (h : x w.devices = (.ok a, t)) : onDevices wrap x w = (.ok a, { w with devices := t }) :=
  Attempt.onPart_of_ok h

theorem onDevices_of_error {wrap : StoreError → ε} {x : Attempt StoreError δ α} {e : StoreError}
    {t : δ} (h : x w.devices = (.error e, t)) :
    onDevices wrap x w = (.error (wrap e), { w with devices := t }) :=
  Attempt.onPart_of_error h

theorem onKernel_eq_ok {wrap : KernelError → ε} {x : Attempt KernelError κ α} :
    onKernel wrap x w = (.ok a, w') ↔ ∃ k, x w.kernel = (.ok a, k) ∧ { w with kernel := k } = w' :=
  Attempt.onPart_eq_ok

theorem onPeers_eq_ok {wrap : StoreError → ε} {x : Attempt StoreError σ α} :
    onPeers wrap x w = (.ok a, w') ↔ ∃ s, x w.peers = (.ok a, s) ∧ { w with peers := s } = w' :=
  Attempt.onPart_eq_ok

theorem onPeers_eq_error {wrap : StoreError → ε} {x : Attempt StoreError σ α} {e : ε}
    (h : onPeers wrap x w = (.error e, w')) :
    ∃ e' s, x w.peers = (.error e', s) ∧ { w with peers := s } = w' :=
  Attempt.onPart_eq_error h

theorem Triple.ask {P : World κ σ δ → Prop} {Q : α → World κ σ δ → Prop} {E : World κ σ δ → Prop}
    {wrap : ε' → ε} {x : World κ σ δ → Except ε' α} (hok : ∀ a w, x w = .ok a → P w → Q a w)
    (herror : ∀ w, P w → E w) : Attempt.Triple P (Reconciler.ask wrap x) Q E :=
  .intro (fun w w' a hw ha => by obtain ⟨hx, rfl⟩ := ask_eq_ok.1 ha; exact hok a w hx hw)
    (fun w w' e hw he => by rw [ask_eq_error he]; exact herror w hw)

theorem Preserves.ask {I : World κ σ δ → Prop} (wrap : ε' → ε) (x : World κ σ δ → Except ε' α) :
    Attempt.Preserves I (Reconciler.ask wrap x) :=
  (Triple.ask (fun _ _ _ hw => hw) fun _ hw => hw).preserves

end Reconciler

end TunnelKeeper
