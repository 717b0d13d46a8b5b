import TunnelKeeper.Proofs.Service.Invariant

/-!
# Passes keep the invariant

A pass that succeeds sends changes that suit the stored peers (`Completed.suits`) and registers a pool
that keeps their addresses (`Completed.guards`): each stored peer has one address, so whatever the
verdict, either the peer got it or someone else has it. A pass that fails leaves everything but the
registry, from which it drops a device.
-/

namespace TunnelKeeper.Reconciler

open Attempt (Preserves Triple)

variable {κ σ δ : Type} {r : Reconciler κ σ δ} {peersOf : κ → String → List KernelPeer}
  {Holds : σ → List Peer → Prop} {ps : List Peer} {unused : List Key} {id : Uuid}
  {w w' : World κ σ δ} {i : Pass.Input} {device : Device} {report : SyncReport}

/-! ## Calls -/

theorem preserves_onKernel {ε α : Type} {wrap : KernelError → ε} {x : Attempt KernelError κ α}
    (hx : ∀ w : World κ σ δ, w.Orderly peersOf Holds ps unused →
      RoutesOwn (peersOf (x w.kernel).2) ps unused) :
    Preserves (World.Orderly (σ := σ) (δ := δ) peersOf Holds ps unused) (onKernel wrap x) := by
  intro w h
  have hw : (onKernel wrap x w).2 = { w with kernel := (x w.kernel).2 } := by
    rw [onKernel, Attempt.onPart_apply]
  rw [hw]
  exact h.withKernel (hx w h)

theorem preserves_onDevices {ε α : Type} {wrap : StoreError → ε} {x : Attempt StoreError δ α} :
    Preserves (World.Orderly (κ := κ) (σ := σ) peersOf Holds ps unused) (onDevices wrap x) := by
  intro w h
  have hw : (onDevices wrap x w).2 = { w with devices := (x w.devices).2 } := by
    rw [onDevices, Attempt.onPart_apply]
  rw [hw]
  exact h.withDevices _

/-! ## Passes -/

section Stored

variable (hs : r.peers.Faithful Holds)
include hs

theorem Completed.suits (h : w.Orderly peersOf Holds ps unused)
    (hc : r.Completed id w i device report w') : ∀ c ∈ i.changes, c.Suits ps := by
  intro c hmem
  obtain ⟨q, hq, networks, hsound, ⟨-, rfl, -⟩ | ⟨-, rfl, -⟩⟩ := Pass.spec_change hmem
  · obtain ⟨p, hp, -, rfl⟩ := (hc.mem_peers_iff hs h.holds).1 hq
    refine .inr ⟨p, hp, rfl, rfl, fun a ha => ?_⟩
    exact Except.ok.inj ((Pass.check_eq_ok_iff.1 hsound).2.symm.trans ha)
  · exact .inl rfl

theorem Completed.guards (hd : r.devices.Keyed) (hg : r.gateway.Faithful peersOf)
    (h : w.Orderly peersOf Holds ps unused) (hc : r.Completed id w i device report w') :
    (⟨device, some i.pool⟩ : ManagedDevice).Guards ps := by
  obtain ⟨block, hblock, hbase⟩ := Device.spec_initialPool hc.base
  refine ⟨i.pool, block, rfl, hc.network.trans hblock, ?_, ?_⟩
  · intro a ha
    exact i.pool_extends a _ (i.start_extends a _ (by rw [hbase, if_pos ha]))
  · intro p hp hdev a ha
    have hid : p.deviceId = id := (hdev.trans hc.device_id).trans (hd _ _ _ hc.stored)
    have hmem : p.stored ∈ i.peers := (hc.mem_peers_iff hs h.holds).2 ⟨p, hp, hid, rfl⟩
    refine Pass.Input.contains_of_single hbase hmem (ha.check (h.rows.valid p hp)) fun _ hkey => ?_
    obtain ⟨k, hk, hkk⟩ := List.mem_map.1 hkey
    have hroute : k.allowedIps = [Cidr.host a] := by
      refine h.kernel.own i.device.name k ?_ p hp hkk a ha
      rw [← (hc.effect hg).1]
      exact hk
    exact ⟨k, hk, by rw [hroute]; exact List.mem_cons_self⟩

theorem Completed.orderly (hd : r.devices.Keyed) (hg : r.gateway.Faithful peersOf)
    (h : w.Orderly peersOf Holds ps unused) (hc : r.Completed id w i device report w') :
    w'.Orderly peersOf Holds ps unused := by
  obtain ⟨-, hafter, hother⟩ := hc.effect hg
  have hkernel : RoutesOwn (peersOf w'.kernel) ps unused :=
    h.kernel.of_changes h.rows.keys h.spare (hc.suits hs h) hafter hother
  have hw := (h.withKernel hkernel).register (hc.guards hs hd hg h)
  have heq : w' = { w with
      kernel := w'.kernel, registry := w.registry.insert device.id ⟨device, some i.pool⟩ } := by
    cases w'
    simp only [hc.registry.symm, hc.peers.symm, hc.devices.symm]
  rw [heq]
  exact hw

end Stored

section Passes

variable (hg : r.gateway.Faithful peersOf) (hs : r.peers.Faithful Holds) (hd : r.devices.Keyed)
include hg hs hd

theorem preserves_syncDevice (id : Uuid) :
    Preserves (World.Orderly peersOf Holds ps unused) (r.syncDevice id) := by
  intro w h
  rcases hrun : r.syncDevice id w with ⟨e | report, w'⟩
  · obtain ⟨k, hk, rfl⟩ := syncDevice_error hrun
    refine (h.withKernel (k := k) ?_).unregister id
    rw [hk.same_peers hg]
    exact h.kernel
  · obtain ⟨i, device, hc⟩ := syncDevice_ok hrun
    exact hc.orderly hs hd hg h

theorem preserves_syncDevices :
    Preserves (World.Orderly peersOf Holds ps unused) r.syncDevices :=
  preserves_syncDevices_of (preserves_syncDevice hg hs hd)

theorem preserves_device (id : Uuid) :
    Preserves (World.Orderly peersOf Holds ps unused) (r.device id) :=
  preserves_device_of (preserves_syncDevice hg hs hd) id

/-- Looking a device up gives it as it is registered then. -/
theorem triple_device (id : Uuid) :
    Triple (World.Orderly peersOf Holds ps unused) (r.device id)
      (fun m w => w.Orderly peersOf Holds ps unused ∧ w.registry[id]? = some m)
      (World.Orderly peersOf Holds ps unused) := by
  have hkept : Preserves (World.Orderly peersOf Holds ps unused) (r.device id) :=
    preserves_device hg hs hd id
  refine .intro ?_ ?_
  · intro w w' m h hm
    exact ⟨hkept.triple.ok h hm, registered_of_device hm⟩
  · intro w w' e h he
    exact hkept.triple.error h he

end Passes

end TunnelKeeper.Reconciler
