import TunnelKeeper.Proofs.Kernel.Faithful

/-!
# Kernels that keep their interfaces apart

`part k name` is what there is in the kernel of the interface `name`: its state, and whether calls about
it fail. A gateway is `Separate` by `part` if a call about an interface goes by the part of that
interface, and changes no other. The kernel in memory is, with the order that concerns a call as the
reason for it to fail.
-/

namespace TunnelKeeper

variable {κ τ α : Type}

/-- The call goes by the part of the interface `name`, and changes no other. -/
structure Gateway.Within (part : κ → String → τ) (name : String) (x : Attempt KernelError κ α) :
    Prop where
  alike : ∀ k k', part k name = part k' name →
    (x k).1 = (x k').1 ∧ part (x k).2 name = part (x k').2 name
  others : ∀ k other, other ≠ name → part (x k).2 other = part k other

theorem Gateway.Within.spares {part : κ → String → τ} {name other : String}
    {x : Attempt KernelError κ α} {outcome : Except KernelError α} {k k' : κ}
    (h : Within part name x) (hx : x k = (outcome, k')) (hne : other ≠ name) :
    part k' other = part k other := by
  have hothers := h.others k other hne
  rwa [hx] at hothers

/-- A gateway to a kernel that keeps its interfaces apart. -/
structure Gateway.Separate (g : Gateway κ) (part : κ → String → τ) : Prop where
  read : ∀ name, Within part name (g.read name)
  configure : ∀ name changes, Within part name (g.configure name changes)
  provision : ∀ name settings, Within part name (g.provision name settings)

/-- What there is of one interface in a kernel in memory. -/
structure InterfacePart where
  snapshot : Option Snapshot
  /-- The order that concerns a call about it. -/
  fault? : KernelOperation → Option KernelFault

namespace MemoryKernel

def part (k : MemoryKernel) (name : String) : InterfacePart :=
  ⟨k.table[name]?, fun operation => k.fault? operation name⟩

/-- A call keeps to its interface if what it does to the table does. -/
theorem within_call {device : String} {request : KernelRequest}
    {effect : KernelTable → Except KernelError α × KernelTable}
    (hhere : ∀ t t' : KernelTable, t[device]? = t'[device]? →
      (effect t).1 = (effect t').1 ∧ (effect t).2[device]? = (effect t').2[device]?)
    (hothers : ∀ (t : KernelTable) (other : String), other ≠ device →
      (effect t).2[other]? = t[other]?) :
    Gateway.Within part device (call device request effect) where
  alike k k' h := by
    have htable : k.table[device]? = k'.table[device]? := congrArg InterfacePart.snapshot h
    have hfault : (fun operation => k.fault? operation device)
        = fun operation => k'.fault? operation device := congrArg InterfacePart.fault? h
    have hrefused := congrFun hfault request.operation
    unfold call
    cases hf : k'.fault? request.operation device with
    | some f =>
      simp only [hrefused, hf, true_and]
      exact h
    | none =>
      simp only [hrefused, hf]
      obtain ⟨hresult, hafter⟩ := hhere k.table k'.table htable
      refine ⟨hresult, ?_⟩
      show InterfacePart.mk ((effect k.table).2[device]?) (fun operation => k.fault? operation device)
        = ⟨(effect k'.table).2[device]?, fun operation => k'.fault? operation device⟩
      rw [hafter, hfault]
  others k other hne := by
    unfold call
    cases k.fault? request.operation device with
    | some f => rfl
    | none =>
      show InterfacePart.mk ((effect k.table).2[other]?) (fun operation => k.fault? operation other)
        = ⟨k.table[other]?, fun operation => k.fault? operation other⟩
      rw [hothers k.table other hne]

theorem getElem?_insert_of_ne {t : KernelTable} {name other : String} {s : Snapshot}
    (h : other ≠ name) : (t.insert name s)[other]? = t[other]? := by
  rw [Std.ExtTreeMap.getElem?_insert,
    if_neg (mt Std.LawfulEqCmp.compare_eq_iff_eq.1 (Ne.symm h))]

theorem separate : Gateway.Separate gateway part where
  read name := by
    simp only [gateway]
    refine within_call (fun t t' h => ?_) fun t other hne => ?_
    · rw [h]
      cases ht : t'[name]? with
      | none => exact ⟨rfl, h⟩
      | some s => exact ⟨rfl, h⟩
    · cases t[name]? with
      | none => rfl
      | some s => rfl
  configure name changes := by
    simp only [gateway]
    refine within_call (fun t t' h => ?_) fun t other hne => ?_
    · rw [h]
      cases ht : t'[name]? with
      | none => exact ⟨rfl, h⟩
      | some s =>
        refine ⟨rfl, ?_⟩
        simp only [KernelTable.configured, Std.ExtTreeMap.getElem?_insert_self]
    · cases t[name]? with
      | none => rfl
      | some s => exact getElem?_insert_of_ne hne
  provision name settings := by
    simp only [gateway]
    refine within_call (fun t t' h => ⟨rfl, ?_⟩) fun t other hne => getElem?_insert_of_ne hne
    simp only [KernelTable.provisioned, Std.ExtTreeMap.getElem?_insert_self, h]

end MemoryKernel

end TunnelKeeper
