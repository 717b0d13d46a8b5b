import TunnelKeeper.Proofs.Service.Passes
import TunnelKeeper.Service.Devices

/-!
# The device service keeps the invariant

The invariant says nothing about the stored devices, and of a registered device only that its pool
goes with its own record. So a device may be stored, changed or dropped at any time: until a pass over
it succeeds, what is registered stays as it was, and allocation goes by that.
-/

namespace TunnelKeeper.DeviceService

open Attempt (Preserves)

variable {κ σ δ : Type} {s : DeviceService κ σ δ} {peersOf : κ → String → List KernelPeer}
  {Holds : σ → List Peer → Prop} {ps : List Peer} {unused : List Key}

variable (hg : s.reconciler.gateway.Faithful peersOf)

include hg in
theorem preserves_provision (name : String) (settings : InterfaceSettings) :
    Preserves (World.Orderly (σ := σ) (δ := δ) peersOf Holds ps unused)
      (Reconciler.onKernel ServiceFault.kernelApplyFailed
        (s.reconciler.gateway.provision name settings)) :=
  Reconciler.preserves_onKernel fun w h => by
    rw [hg.provision (k := w.kernel) rfl]
    exact h.kernel

include hg in
/-- With its interface go the peers of the kernel's, which the invariant does not need. -/
theorem preserves_delete (name : String) :
    Preserves (World.Orderly (σ := σ) (δ := δ) peersOf Holds ps unused)
      (Reconciler.onKernel ServiceFault.kernelApplyFailed (s.reconciler.gateway.remove name)) := by
  refine Reconciler.preserves_onKernel fun w h => h.kernel.of_subset fun other p hp => ?_
  rcases hk : s.reconciler.gateway.remove name w.kernel with ⟨_, k⟩
  rw [hk] at hp
  obtain ⟨hname, hother⟩ := hg.remove hk
  by_cases ho : other = name
  · rw [ho] at hp ⊢
    rcases hname with hname | hname
    · rwa [hname] at hp
    · rw [hname] at hp
      cases hp
  · rwa [hother other ho] at hp

variable (hs : s.reconciler.peers.Faithful Holds) (hd : s.reconciler.devices.Keyed)
include hg hs hd

theorem preserves_provisionAndSync (d : Device) :
    Preserves (World.Orderly peersOf Holds ps unused) (s.provisionAndSync d) := by
  refine (Preserves.ofExcept _ _).bind fun settings => ?_
  refine (preserves_provision hg d.name settings).bind fun _ => ?_
  refine (Preserves.mapError _ (Reconciler.preserves_syncDevice hg hs hd d.id)).bind fun _ => ?_
  refine Preserves.get.bind fun w => ?_
  split
  · exact .pure _
  · exact .fail _

theorem preserves_add (d : Device) :
    Preserves (World.Orderly peersOf Holds ps unused) (s.add d) :=
  (Preserves.ofExcept _ _).bind fun _ => Reconciler.preserves_onDevices.bind fun _ =>
    preserves_provisionAndSync hg hs hd d

theorem preserves_update (id : Uuid) (req : UpdateDevice) :
    Preserves (World.Orderly peersOf Holds ps unused) (s.update id req) :=
  (Reconciler.Preserves.ask _ _).bind fun _ => (Preserves.ofExcept _ _).bind fun _ =>
    Reconciler.preserves_onDevices.bind fun _ => preserves_provisionAndSync hg hs hd _

omit hs hd in
theorem preserves_remove (id : Uuid) :
    Preserves (World.Orderly peersOf Holds ps unused) (s.remove id) := by
  refine (Reconciler.Preserves.ask _ _).bind fun d => ?_
  refine Reconciler.preserves_onDevices.bind fun _ => ?_
  refine Preserves.bind (fun w h => h.unregister id) fun _ => ?_
  exact preserves_delete hg d.name

end TunnelKeeper.DeviceService
