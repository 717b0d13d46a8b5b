import TunnelKeeper.Proofs.Service.Mirror
import TunnelKeeper.Proofs.Service.Turns

/-!
# What a pass makes of settings that the kernel refused

An update is stored before the kernel is told, so where the kernel refuses, its peer goes on with the
old settings (`Peer.Settled` says that it has the stored ones). A pass looks for keys alone. It pushes
a peer whose key is missing, with all of its settings, and leaves one whose key is there as it is. So
after a pass the kernel has a peer's settings exactly if it had them before, or had no such peer
(`settled_after_pass`). What it routes to a peer is right either way, as no update changes that.
-/

namespace TunnelKeeper

namespace Reconciler

variable {κ σ δ : Type} {r : Reconciler κ σ δ} {peersOf : κ → String → List KernelPeer}
  {Holds : σ → List Peer → Prop} {id : Uuid} {w w' : World κ σ δ} {i : Pass.Input} {device : Device}
  {report : SyncReport} {ps : List Peer} {p : Peer} {k : KernelPeer}

/-- After a pass an enabled peer has its settings if whatever the kernel had of it before does. -/
theorem Completed.settled_iff (hg : r.gateway.Faithful peersOf) (hs : r.peers.Faithful Holds)
    (h : r.Completed id w i device report w') (hps : Holds w.peers ps)
    (hkeys : (ps.map Peer.publicKey).Nodup)
    (hkernel : ((peersOf w.kernel i.device.name).map KernelPeer.publicKey).Nodup) (hp : p ∈ ps)
    (hdev : p.deviceId = id) (he : p.isEnabled = true) (hk : k ∈ peersOf w'.kernel i.device.name)
    (hkey : k.publicKey = p.publicKey) :
    p.Settled k ↔
      ∀ k₀ ∈ peersOf w.kernel i.device.name, k₀.publicKey = p.publicKey → p.Settled k₀ := by
  obtain ⟨hlive, hafter, -⟩ := h.effect hg
  have hdistinct : i.Distinct := ⟨h.nodup_keys hs hps hkeys, by rwa [hlive]⟩
  have hlisted : p.stored ∈ i.peers := (h.mem_peers_iff hs hps).2 ⟨p, hp, hdev, rfl⟩
  rw [← hlive] at hafter ⊢
  rw [show peersOf w'.kernel i.device.name = i.after from hafter] at hk
  constructor
  · intro hsettled k₀ hk₀ hkey₀
    have hstays : k₀ ∈ i.after := hdistinct.mem_after_of_present hlisted he hk₀ hkey₀
    rwa [List.inj_on_of_nodup_map hdistinct.nodup_after hstays hk (hkey₀.trans hkey.symm)]
  · intro hbefore
    rcases hdistinct.spec_after_of_enabled hlisted hk hkey with hk | ⟨-, networks, -, rfl⟩
    · exact hbefore k hk hkey
    · exact Peer.settled_stored.1 (p.stored.settled_installed networks)

end Reconciler

namespace PeerService

variable {κ σ δ : Type} {s : PeerService κ σ δ} {peersOf : κ → String → List KernelPeer}
  {Holds : σ → List Peer → Prop} {dev : Device} {w w' w₀ : World κ σ δ} {report : SyncReport}
  {Up : κ → Prop}

/-- A run on one device is a run of the services. -/
theorem steps_of_turns
    (hrun : Relation.ReflTransGen (s.Turn peersOf Holds dev (Suitable peersOf Holds) Up) w w') :
    Relation.ReflTransGen (s.Step peersOf Holds) w w' := by
  refine Relation.ReflTransGen.mono (fun v v' hturn => ?_) _ _ hrun
  cases hturn with
  | perform op about fit => exact .perform op fit
  | meanwhile k p t hk up hp fixed => exact .meanwhile k p t hk hp

/-- After a run and a pass, the kernel routes to every enabled peer that it has what the peer declares.
It has the peer's settings exactly if it had them before the pass, or did not have the peer. -/
theorem settled_after_pass (hg : s.reconciler.gateway.Faithful peersOf)
    (hs : s.reconciler.peers.Faithful Holds) (hd : s.reconciler.devices.Keyed)
    (hrows : Holds w₀.peers []) (hregistry : w₀.registry = ∅)
    (hfixed : s.reconciler.devices.Fixes dev w₀.devices) (honce : Once (peersOf w₀.kernel))
    (hrun : Relation.ReflTransGen
      (s.Turn peersOf Holds dev (Suitable peersOf Holds) fun _ => True) w₀ w)
    (hpass : s.reconciler.syncDevice dev.id w = (.ok report, w')) :
    ∃ ps, Holds w'.peers ps ∧ ∀ p ∈ ps, p.deviceId = dev.id → p.isEnabled = true →
      ∀ k ∈ peersOf w'.kernel dev.name, k.publicKey = p.publicKey →
        p.allowedNetworks = .ok k.allowedIps ∧
        (p.Settled k ↔
          ∀ k₀ ∈ peersOf w.kernel dev.name, k₀.publicKey = p.publicKey → p.Settled k₀) := by
  obtain ⟨⟨_, hground⟩, honce⟩ :=
    grounded_of_run hg hs hd hrun ⟨[], grounded_initial hrows hregistry hfixed⟩ honce
  obtain ⟨ps, hw⟩ := kept_of_run hg hs hd hrows hregistry (steps_of_turns hrun)
  have hw' : World.Orderly peersOf Holds ps [] w' := by
    have := Reconciler.preserves_syncDevice hg hs hd dev.id w hw
    rwa [hpass] at this
  obtain ⟨i, device, hc⟩ := Reconciler.syncDevice_ok hpass
  have hdevice : i.device = dev := hground.fixed _ hc.stored
  refine ⟨ps, hw'.holds, fun p hp hdev he k hk hkey => ⟨?_, ?_⟩⟩
  · obtain ⟨a, ha⟩ := hw'.rows.single p hp
    rw [hw'.kernel.own dev.name k hk p hp hkey a ha]
    exact ha
  · rw [← hdevice] at hk ⊢
    exact hc.settled_iff hg hs hw.holds hw.rows.keys (honce _) hp hdev he hk hkey

end PeerService

/-! ## The kernel refuses an update -/

namespace Sample

open PeerService

/-- A request to send a keepalive every 25 seconds. -/
def keepaliveRequest : UpdatePeer :=
  ⟨none, none, none, none, none, none, some (.ofSeconds 25), false, false⟩

/-- The first peer is to send keepalives, but the kernel refuses that. -/
def outdatedWorld : World MemoryKernel MemoryPeers MemoryDevices :=
  service.perform refusingWorld (.updatePeer ⟨0, 0⟩ (key 0) (uuid 1) keepaliveRequest)

/-- After a pass that the kernel would let repair it. -/
def unrepairedWorld : World MemoryKernel MemoryPeers MemoryDevices :=
  service.perform (heal outdatedWorld) (.sync device.id)

/-- The kernel refuses the update, and the pass after it succeeds and reports nothing. -/
theorem computed_unrepairedWorld :
    (∀ d ∈ outdatedWorld.devices.devices, d.id = device.id → d = device) ∧
      (service.update ⟨0, 0⟩ (key 0) (uuid 1) keepaliveRequest refusingWorld).1.map (fun _ => ())
        = .error (.kernelApplyFailed (.io "refused")) ∧
      (service.reconciler.syncDevice device.id (heal outdatedWorld)).1
        = .ok ⟨[device.name], [], [], [], [], []⟩ ∧
      unrepairedWorld.peers.rows.map PeerRow.keepaliveSeconds = [25] ∧
      (unrepairedWorld.kernel.peersOf device.name).map KernelPeer.keepalive = [.ofSeconds 0] := by
  decide +kernel

theorem settled_after_pass_refused :
    ∃ report ps, service.reconciler.syncDevice device.id (heal outdatedWorld)
        = (.ok report, unrepairedWorld) ∧
      MemoryPeers.Holds unrepairedWorld.peers ps ∧
      ∀ p ∈ ps, p.deviceId = device.id → p.isEnabled = true →
        ∀ k ∈ unrepairedWorld.kernel.peersOf device.name, k.publicKey = p.publicKey →
          p.allowedNetworks = .ok k.allowedIps ∧
          (p.Settled k ↔ ∀ k₀ ∈ (heal outdatedWorld).kernel.peersOf device.name,
            k₀.publicKey = p.publicKey → p.Settled k₀) := by
  obtain ⟨hdevices, -, hpassed, -⟩ := computed_unrepairedWorld
  have hrun : service.reconciler.syncDevice device.id (heal outdatedWorld)
      = (.ok ⟨[device.name], [], [], [], [], []⟩, unrepairedWorld) :=
    syncDevice_eq hpassed
  have hturns : Turns (Suitable MemoryKernel.peersOf MemoryPeers.Holds) emptyWorld
      (heal outdatedWorld) :=
    Turns.heal ((turns_refusingWorld (unused_emptyWorld _)).tail
      (.perform (.updatePeer ..) trivial trivial)) hdevices
  obtain ⟨ps, hps, hall⟩ := settled_after_pass MemoryKernel.faithful MemoryPeers.faithful
    MemoryDevices.keyed (Reconciler.holds_memoryWorld List.nodup_nil) rfl fixes_emptyWorld
    once_emptyWorld hturns hrun
  exact ⟨_, ps, hrun, hps, hall⟩

/-- The update fails at the kernel, and the pass that succeeds after it leaves the kernel without. -/
theorem refused_update_stays :
    emptyWorld.peers.entries = [] ∧ emptyWorld.kernel.peersOf device.name = [] ∧
      Turns (fun _ _ => True) emptyWorld outdatedWorld ∧
      (service.update ⟨0, 0⟩ (key 0) (uuid 1) keepaliveRequest refusingWorld).1.map (fun _ => ())
        = .error (.kernelApplyFailed (.io "refused")) ∧
      ∃ report, service.reconciler.syncDevice device.id (heal outdatedWorld)
          = (.ok report, unrepairedWorld) ∧
        unrepairedWorld.peers.rows.map PeerRow.keepaliveSeconds = [25] ∧
        (unrepairedWorld.kernel.peersOf device.name).map KernelPeer.keepalive = [.ofSeconds 0] := by
  obtain ⟨-, hrefused, hpassed, hrow, hkernel⟩ := computed_unrepairedWorld
  have hturns : Turns (fun _ _ => True) emptyWorld outdatedWorld :=
    (turns_refusingWorld trivial).tail (.perform (.updatePeer ..) trivial trivial)
  exact ⟨rfl, peersOf_emptyWorld _, hturns, hrefused, _, syncDevice_eq hpassed, hrow, hkernel⟩

end Sample

end TunnelKeeper
