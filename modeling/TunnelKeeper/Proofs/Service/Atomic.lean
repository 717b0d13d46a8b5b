import TunnelKeeper.Proofs.Service.Edits
import TunnelKeeper.Proofs.Service.Run

/-!
# Calls take effect wholly or not at all

A call that fails before the kernel is told its change leaves the registered pools, the rows and the
kernel as they were: there is nothing to undo before the write to the store, and where that fails the
pool is put back address by address (`AddressPool.undo_put`, `undo_claim`, `undo_release`). A call that
fails because the kernel refuses has done all the rest, and that does not depend on the kernel: the
draft is settled before it, and by what is stored and registered alone.
-/

namespace TunnelKeeper

/-- A write that fails leaves the rows. -/
structure PeerStore.Spares {σ ρ : Type} (store : PeerStore σ) (rows : σ → ρ) : Prop where
  add : ∀ {p t t' e}, store.add p t = (.error e, t') → rows t' = rows t
  update : ∀ {p t t' e}, store.update p t = (.error e, t') → rows t' = rows t
  remove : ∀ {id t t' e}, store.remove id t = (.error e, t') → rows t' = rows t

/-- The device is registered. -/
def World.Registers {κ σ δ : Type} (w : World κ σ δ) (id : Uuid) : Prop :=
  ∃ m, w.registry[id]? = some m ∧ m.device.id = id

theorem World.registers_of_map {κ σ δ : Type} {w : World κ σ δ} {id : Uuid}
    (h : (w.registry[id]?.map fun m => m.device.id) = some id) : w.Registers id :=
  Option.map_eq_some_iff.1 h

namespace PeerService

variable {κ σ δ ρ : Type} {s : PeerService κ σ δ} {c : PeerCall} {w w' : World κ σ δ}
  {t : Task σ} {m : ManagedDevice} {d : Draft σ} {e : ServiceFault} {r : Except ServiceFault Unit}

/-- The kernel state `k` takes every change to a peer of a device that the call is about. -/
def Accepts (s : PeerService κ σ δ) (w : World κ σ δ) (c : PeerCall) (k : κ) : Prop :=
  ∀ id m, s.Concerns w c id → w.registry[id]? = some m →
    ∀ change, (s.reconciler.gateway.configure m.device.name [change] k).1 = .ok ()

/-! ## Faults

That the kernel refused a change is never found out before it is told. -/

/-- No fault of the result is that the kernel refused. -/
def NotRefused {α : Type} (r : Except ServiceFault α) : Prop :=
  ∀ e, r = .error e → e.isKernelApplyFailure = false

theorem notRefused_ok {α : Type} (a : α) : NotRefused (.ok a : Except ServiceFault α) :=
  fun e he => by cases he

theorem NotRefused.bind {ε α β : Type} {wrap : ε → ServiceFault} {r : Except ε α}
    {f : α → Except ServiceFault β} (hwrap : ∀ e, (wrap e).isKernelApplyFailure = false)
    (hf : ∀ a, NotRefused (f a)) : NotRefused (r.mapError wrap >>= f) := by
  cases r with
  | error e =>
    intro e' he
    cases he
    exact hwrap e
  | ok a => exact hf a

theorem isKernelApplyFailure_ofStore (e : StoreError) :
    (ServiceFault.ofStore e).isKernelApplyFailure = false := by
  cases e <;> rfl

theorem isKernelApplyFailure_ofDevice (e : DeviceError) :
    (ServiceFault.ofDevice e).isKernelApplyFailure = false := by
  cases e <;> rfl

theorem isKernelApplyFailure_ofReconcile (e : ReconcileError) :
    (ServiceFault.ofReconcile e).isKernelApplyFailure = false := by
  cases e with
  | store e => exact isKernelApplyFailure_ofStore e
  | _ => rfl

theorem notRefused_device (id : Uuid) (w : World κ σ δ) : NotRefused (s.device id w).1 := by
  intro e he
  unfold device Attempt.mapError at he
  rcases hrun : s.reconciler.device id w with ⟨e' | m, w'⟩
  · rw [hrun] at he
    cases he
    exact isKernelApplyFailure_ofReconcile e'
  · rw [hrun] at he
    cases he

theorem notRefused_draft (h : s.task w.peers c = .ok (some t)) (m : ManagedDevice) :
    NotRefused (t.draft m) := by
  cases assigned h with
  | add =>
    exact .bind (fun _ => rfl) fun _ => .bind isKernelApplyFailure_ofDevice fun _ =>
      .bind (fun _ => rfl) fun _ => notRefused_ok _
  | update => exact .bind (fun _ => rfl) fun _ => .bind (fun _ => rfl) fun _ => notRefused_ok _
  | remove =>
    exact .bind isKernelApplyFailure_ofDevice fun _ => .bind (fun _ => rfl) fun _ => notRefused_ok _
  | enable =>
    exact .bind isKernelApplyFailure_ofDevice fun _ => .bind (fun _ => rfl) fun _ =>
      .bind (fun _ => rfl) fun _ => notRefused_ok _
  | disable => exact .bind isKernelApplyFailure_ofDevice fun _ => notRefused_ok _

theorem notRefused_task : NotRefused (s.task w.peers c) := by
  have hstored : ∀ id f, NotRefused (task.stored s w.peers id f) := by
    intro id f e he
    unfold task.stored at he
    cases hget : s.reconciler.peers.get w.peers id with
    | error e' =>
      rw [hget] at he
      cases he
      exact isKernelApplyFailure_ofStore e'
    | ok p =>
      rw [hget] at he
      cases he
  cases c with
  | add => exact notRefused_ok _
  | update | remove | enable | disable => exact hstored _ _

/-- A call that does not fail, or not before the kernel is told, has nothing to do or does it all. -/
theorem Course.stored_of (h : s.Course c w r w')
    (hr : ∀ e, r = .error e → e.isKernelApplyFailure = true) :
    (s.task w.peers c = .ok none ∧ r = .ok () ∧ w' = w) ∨
      ∃ t m d w₁ u k, s.task w.peers c = .ok (some t) ∧ s.device t.device w = (.ok m, w₁) ∧
        t.draft m = .ok d ∧ d.write w₁.peers = (.ok (), u) ∧
        Told s.reconciler.gateway m.device.name d.change w₁.kernel r k ∧
        w' = ⟨k, u, w₁.devices, w₁.registry.insert d.taken.device.id d.taken⟩ := by
  have hnot : ∀ {e}, r = .error e → e.isKernelApplyFailure ≠ false := fun he => by simp [hr _ he]
  cases h with
  | unknown task => exact absurd (notRefused_task _ task) (hnot rfl)
  | idle task => exact .inl ⟨task, rfl, rfl⟩
  | unregistered task lookup =>
    exact absurd (notRefused_device _ _ _ (congrArg Prod.fst lookup)) (hnot rfl)
  | refused task lookup draft => exact absurd (notRefused_draft task _ _ draft) (hnot rfl)
  | carriedOut task lookup draft outcome =>
    cases outcome with
    | unstored write => exact absurd (isKernelApplyFailure_ofStore _) (hnot rfl)
    | stored write told => exact .inr ⟨_, _, _, _, _, _, task, lookup, draft, write, told, rfl⟩

/-! ## What a failed call leaves

The device of the call is registered. -/

theorem Edit.spares {rows : σ → ρ} (hrows : s.reconciler.peers.Spares rows) {u u' u'' : σ}
    {e : StoreError} (h : s.Edit u m c d) (hw : d.write u' = (.error e, u'')) : rows u'' = rows u' := by
  cases h with
  | add => exact hrows.add hw
  | update | enable | disable => exact hrows.update hw
  | remove => exact hrows.remove hw

section Registered

variable (hreg : ∀ id, s.Concerns w c id → w.Registers id)
include hreg

/-- Looking up the device of the call does nothing. -/
theorem lookup_registered (htask : s.task w.peers c = .ok (some t)) :
    ∃ m, s.device t.device w = (.ok m, w) ∧ m.device.id = t.device ∧
      w.registry[t.device]? = some m := by
  obtain ⟨m, hm, hid⟩ := hreg t.device (concerns_of_task htask)
  exact ⟨m, device_registered hm, hid, hm⟩

theorem found_registered (htask : s.task w.peers c = .ok (some t)) {w₁ : World κ σ δ}
    (hlookup : s.device t.device w = (.ok m, w₁)) :
    w = w₁ ∧ m.device.id = t.device ∧ w.registry[t.device]? = some m := by
  obtain ⟨m', hlookup', hid, hm⟩ := lookup_registered hreg htask
  obtain ⟨hfound, rfl⟩ := Prod.mk.inj (hlookup'.symm.trans hlookup)
  obtain rfl := Except.ok.inj hfound
  exact ⟨rfl, hid, hm⟩

theorem course_registered (hrun : s.call c w = (r, w')) : s.Course c w r w' :=
  course (fun htask hlookup => (found_registered hreg htask hlookup).2.1) hrun

/-- A call that fails otherwise than in the kernel has done nothing. -/
theorem call_undone {rows : σ → ρ} (hrows : s.reconciler.peers.Spares rows)
    (hrun : s.call c w = (.error e, w')) (he : e.isKernelApplyFailure = false) :
    w'.registry = w.registry ∧ rows w'.peers = rows w.peers ∧ w'.devices = w.devices ∧
      w'.kernel = w.kernel := by
  cases course_registered hreg hrun with
  | unknown => exact ⟨rfl, rfl, rfl, rfl⟩
  | unregistered htask hlookup =>
    obtain ⟨m, hlookup', -⟩ := lookup_registered hreg htask
    cases hlookup'.symm.trans hlookup
  | refused htask hlookup =>
    obtain ⟨rfl, -⟩ := found_registered hreg htask hlookup
    exact ⟨rfl, rfl, rfl, rfl⟩
  | carriedOut htask hlookup hdraft houtcome =>
    obtain ⟨rfl, -⟩ := found_registered hreg htask hlookup
    cases houtcome with
    | unstored write => exact ⟨rfl, (edit htask hdraft).spares hrows write, rfl, rfl⟩
    | stored write told =>
      obtain ⟨_, _, -, rfl, -⟩ := told.error
      cases he

theorem call_carriedOut (htask : s.task w.peers c = .ok (some t))
    (hm : w.registry[t.device]? = some m) (hdraft : t.draft m = .ok d)
    (hrun : s.call c w = (r, w')) : s.Outcome m d w r w' := by
  cases course_registered hreg hrun with
  | unknown htask' => cases htask.symm.trans htask'
  | idle htask' => cases htask.symm.trans htask'
  | unregistered htask' hlookup =>
    obtain rfl := Option.some.inj (Except.ok.inj (htask.symm.trans htask'))
    cases (device_registered hm).symm.trans hlookup
  | refused htask' hlookup hdraft' =>
    obtain rfl := Option.some.inj (Except.ok.inj (htask.symm.trans htask'))
    obtain ⟨-, -, hm'⟩ := found_registered hreg htask hlookup
    obtain rfl := Option.some.inj (hm.symm.trans hm')
    cases hdraft.symm.trans hdraft'
  | carriedOut htask' hlookup hdraft' houtcome =>
    obtain rfl := Option.some.inj (Except.ok.inj (htask.symm.trans htask'))
    obtain ⟨rfl, -, hm'⟩ := found_registered hreg htask hlookup
    obtain rfl := Option.some.inj (hm.symm.trans hm')
    obtain rfl := Except.ok.inj (hdraft.symm.trans hdraft')
    exact houtcome

/-- A call that fails in the kernel leaves what it leaves with any other kernel. -/
theorem call_stands (hrun : s.call c w = (.error e, w')) (he : e.isKernelApplyFailure = true) {k : κ}
    {w₁ : World κ σ δ} (hrun₁ : s.call c { w with kernel := k } = (r, w₁)) :
    w₁.registry = w'.registry ∧ w₁.peers = w'.peers ∧ w₁.devices = w'.devices ∧
      (s.Accepts w c k → r = .ok ()) := by
  have hkernel : ∀ e', (.error e : Except ServiceFault Unit) = .error e' →
      e'.isKernelApplyFailure = true := fun e' he' => Except.error.inj he' ▸ he
  obtain ⟨-, hok, -⟩ | ⟨t, m, d, w₁, u, k', htask, hlookup, hdraft, write, told, rfl⟩ :=
    (course_registered hreg hrun).stored_of hkernel
  · cases hok
  · obtain ⟨rfl, -, hm⟩ := found_registered hreg htask hlookup
    cases call_carriedOut (w := { w with kernel := k }) hreg htask hm hdraft hrun₁ with
    | unstored write' => cases write.symm.trans write'
    | stored write' told' =>
      obtain ⟨-, rfl⟩ := Prod.mk.inj (write.symm.trans write')
      exact ⟨rfl, rfl, rfl, fun hk => told'.accepted (hk _ _ (concerns_of_task htask) hm)⟩

end Registered

/-- A call that fails has done nothing at all, or all but what the kernel refused: with any other
kernel it leaves the same pools and rows, and where that takes the change it succeeds. Kernel states
are any, so also ones that count the calls. -/
theorem all_or_nothing {rows : σ → ρ} (hrows : s.reconciler.peers.Spares rows)
    (hreg : ∀ id, s.Concerns w c id → w.Registers id) (hrun : s.call c w = (.error e, w')) :
    (e.isKernelApplyFailure = false →
      w'.registry = w.registry ∧ rows w'.peers = rows w.peers ∧ w'.devices = w.devices ∧
        w'.kernel = w.kernel) ∧
    (e.isKernelApplyFailure = true → ∀ k r w₁, s.call c { w with kernel := k } = (r, w₁) →
      w₁.registry = w'.registry ∧ w₁.peers = w'.peers ∧ w₁.devices = w'.devices ∧
        (s.Accepts w c k → r = .ok ())) :=
  ⟨call_undone hreg hrows hrun, fun he _ _ _ hrun₁ => call_stands hreg hrun he hrun₁⟩

end PeerService

/-! ## The kernel refuses a new peer, or the store -/

theorem MemoryPeers.spares : PeerStore.Spares store rows where
  add := by
    intro p t t' e h
    simp only [store] at h
    split at h
    · rw [← (Prod.mk.inj h).2]
    · cases h
  update := by
    intro p t t' e h
    simp only [store] at h
    split at h
    · cases h
    · rw [← (Prod.mk.inj h).2]
  remove := by
    intro id t t' e h
    simp only [store] at h
    split at h
    · cases h
    · rw [← (Prod.mk.inj h).2]

theorem Refusing.spares {σ ρ : Type} {store : PeerStore σ} {rows : σ → ρ} (h : store.Spares rows) :
    (peers store).Spares fun s => rows s.inner where
  add := @fun _ t _ _ => change_kept (P := fun u => rows u = rows t.inner) rfl h.add
  update := @fun _ t _ _ => change_kept (P := fun u => rows u = rows t.inner) rfl h.update
  remove := @fun _ t _ _ => change_kept (P := fun u => rows u = rows t.inner) rfl h.remove

namespace Sample

open PeerService

/-- The second peer is to be added where the kernel refuses, or the store. -/
def secondAdd : PeerCall := .add ⟨0, 0⟩ (draw 2) request

/-- The kernel, no longer refusing. -/
def healedKernel : MemoryKernel := refusingWorld.kernel.setFault .configure none

theorem accepts_healedKernel : service.Accepts refusingWorld secondAdd healedKernel := by
  have hname : refusingWorld.registry[device.id]?.map (fun m => m.device.name) = some device.name := by
    decide +kernel
  have htable : (healedKernel.table[device.name]?).isSome = true := by decide +kernel
  obtain ⟨t, ht⟩ := Option.isSome_iff_exists.1 htable
  rintro _ m rfl hm change
  rw [show refusingWorld.registry[device.id]? = some m from hm, Option.map_some,
    Option.some.injEq] at hname
  rw [hname]
  obtain ⟨k', hk', -⟩ := MemoryKernel.configure_of_table (by decide +kernel) ht [change]
  exact congrArg Prod.fst hk'

/-- Where the kernel refuses, the pool and the rows are those that it would have left had it not. Where
the store refuses, the address that was taken for the peer is back in the pool. -/
theorem all_or_nothing_refused :
    (∃ w' w₁, service.call secondAdd refusingWorld = (.error (.kernelApplyFailed (.io "refused")), w') ∧
      service.call secondAdd { refusingWorld with kernel := healedKernel } = (.ok (), w₁) ∧
      w₁.registry = w'.registry ∧ w₁.peers = w'.peers ∧ w₁.devices = w'.devices) ∧
    ∃ w', orderedService.call secondAdd unwritableWorld
        = (.error (.store (.backend "the disk is full")), w') ∧
      w'.registry = unwritableWorld.registry ∧
      w'.peers.inner.rows = unwritableWorld.peers.inner.rows ∧
      w'.devices = unwritableWorld.devices ∧ w'.kernel = unwritableWorld.kernel := by
  have hrun : service.call secondAdd refusingWorld = (.error (.kernelApplyFailed (.io "refused")),
      (service.call secondAdd refusingWorld).2) := Prod.ext (by decide +kernel) rfl
  have hregistered : refusingWorld.Registers device.id := World.registers_of_map (by decide +kernel)
  rcases hrun₁ : service.call secondAdd { refusingWorld with kernel := healedKernel } with ⟨r, w₁⟩
  have hstands := all_or_nothing MemoryPeers.spares (by rintro _ rfl; exact hregistered) hrun
  obtain ⟨hregistry, hpeers, hdevices, hok⟩ := hstands.2 rfl healedKernel r w₁ hrun₁
  obtain rfl := hok accepts_healedKernel
  refine ⟨⟨_, w₁, hrun, rfl, hregistry, hpeers, hdevices⟩, ?_⟩
  have hrun' : orderedService.call secondAdd unwritableWorld
      = (.error (.store (.backend "the disk is full")),
        (orderedService.call secondAdd unwritableWorld).2) := Prod.ext (by decide +kernel) rfl
  have hregistered' : unwritableWorld.Registers device.id :=
    World.registers_of_map (by decide +kernel)
  have hundone := all_or_nothing (Refusing.spares MemoryPeers.spares)
    (by rintro _ rfl; exact hregistered') hrun'
  exact ⟨_, hrun', hundone.1 rfl⟩

end Sample

end TunnelKeeper
