import TunnelKeeper.Proofs.InMemory
import TunnelKeeper.Proofs.Reconcile.Effect

/-!
# One pass brings the kernel in line

`Converged` says what a pass over a device owes: its valid enabled peers are in the kernel unless
they conflict, its valid disabled ones are not, those that were pushed have the settings of their
rows, and nothing else changed. `syncDevice_converges` proves it of every pass that succeeds, for
stored peers with distinct keys and a kernel that lists every key once. Each clause is one of the
facts about `Pass.Input.after`.
-/

namespace TunnelKeeper

/-- The stored peer belongs to the device `id`, has no faults, and its addresses are blocks. -/
structure Peer.ValidOf (id : Uuid) (p : Peer) : Prop where
  device : p.deviceId = id
  valid : p.validate = .ok ()
  readable : ∃ networks, p.allowedNetworks = .ok networks

/-- The kernel's peers `after` a pass over the device `id` that reported `report`, where `ps` are
stored and the kernel had the peers `before`. -/
structure Converged (id : Uuid) (ps : List Peer) (report : SyncReport)
    (before after : List KernelPeer) : Prop where
  /-- Valid enabled peers are there, unless they conflict. -/
  present : ∀ p ∈ ps, p.ValidOf id → p.isEnabled = true → p.id ∉ report.conflicting →
    p.publicKey ∈ after.map KernelPeer.publicKey
  /-- Valid disabled peers are not there. -/
  absent : ∀ p ∈ ps, p.ValidOf id → p.isEnabled = false →
    p.publicKey ∉ after.map KernelPeer.publicKey
  /-- A peer that was pushed has the networks, the keepalive and the preshared key of its row. -/
  pushed : ∀ p ∈ ps, p.id ∈ report.pushed → ∃ k ∈ after, k.publicKey = p.publicKey ∧
    p.allowedNetworks = .ok k.allowedIps ∧ k.keepalive = p.keepalive.whole ∧
    k.presharedKey = p.presharedKey.filter fun psk => !psk.isZero
  /-- Every other peer is there as it was. -/
  kept : ∀ k ∈ before,
    (∀ p ∈ ps, p.ValidOf id → p.isEnabled = false → p.publicKey ≠ k.publicKey) → k ∈ after
  /-- Every key is still there once. -/
  nodup : (after.map KernelPeer.publicKey).Nodup

/-- The peer that a push installs has what the record says. -/
theorem Peer.installed_changeFor (p : Peer) (networks : List Cidr) :
    (p.changeFor networks).installed.allowedIps = networks ∧
      (p.changeFor networks).installed.keepalive = p.keepalive ∧
      (p.changeFor networks).installed.presharedKey
        = p.presharedKey.filter fun psk => !psk.isZero := by
  refine ⟨rfl, rfl, ?_⟩
  show (p.changeFor networks).presharedKeyAfter none = _
  unfold PeerChange.presharedKeyAfter
  cases hk : p.presharedKey with
  | none => simp [changeFor, hk]
  | some psk =>
    by_cases hz : psk.isZero = true
    · simp [changeFor, hk, hz, Option.filter]
    · simp [changeFor, hk, hz, Option.filter]

namespace Reconciler

variable {κ σ δ : Type} {r : Reconciler κ σ δ} {peersOf : κ → String → List KernelPeer}
  {Holds : σ → List Peer → Prop} {id : Uuid} {w w' : World κ σ δ} {i : Pass.Input} {device : Device}
  {report : SyncReport} {ps : List Peer}

theorem Completed.converged (hg : r.gateway.Faithful peersOf) (hs : r.peers.Faithful Holds)
    (hps : Holds w.peers ps) (hkeys : (ps.map Peer.publicKey).Nodup)
    (hkernel : ((peersOf w.kernel i.device.name).map KernelPeer.publicKey).Nodup)
    (h : r.Completed id w i device report w') :
    Converged id ps report (peersOf w.kernel i.device.name) (peersOf w'.kernel i.device.name) := by
  obtain ⟨hlive, hafter, -⟩ := h.effect hg
  have hdistinct : i.Distinct := ⟨h.nodup_keys hs hps hkeys, by rwa [hlive]⟩
  have hlisted : ∀ p ∈ ps, p.ValidOf id → p.stored ∈ i.peers ∧
      ∃ networks, Pass.check p.stored = .ok networks := fun p hp hv =>
    ⟨(h.mem_peers_iff hs hps).2 ⟨p, hp, hv.device, rfl⟩,
      hv.readable.imp fun networks hn => Pass.check_eq_ok_iff.2 ⟨hv.valid, hn⟩⟩
  rw [← hlive] at hafter ⊢
  rw [show peersOf w'.kernel i.device.name = i.after from hafter]
  constructor
  case present =>
    intro p hp hv he hc
    obtain ⟨hq, networks, hsound⟩ := hlisted p hp hv
    rw [← p.publicKey_stored]
    refine hdistinct.mem_after_of_enabled hq hsound he fun hm => hc ?_
    rw [h.report_eq]
    exact Pass.mem_conflicting.2 ⟨p.stored, hm, rfl⟩
  case absent =>
    intro p hp hv hd
    obtain ⟨hq, networks, hsound⟩ := hlisted p hp hv
    rw [← p.publicKey_stored]
    exact hdistinct.notMem_after_of_disabled hq hsound hd
  case pushed =>
    intro p hp hpushed
    rw [h.report_eq] at hpushed
    obtain ⟨q, c, hm, hid⟩ := Pass.mem_pushed.1 hpushed
    obtain ⟨hq, before, after, hj⟩ := Pass.Input.exists_judged hm
    obtain ⟨p', hp', -, rfl⟩ := (h.mem_peers_iff hs hps).1 hq
    obtain rfl : p' = p := List.inj_on_of_nodup_map (hs.nodup hps) hp' hp hid
    cases hj with
    | @pushed networks sound =>
      obtain ⟨hnet, hkeep, hpsk⟩ := p'.stored.installed_changeFor networks
      refine ⟨_, hdistinct.installed_mem_after (Pass.Input.mem_changes hm rfl) rfl, rfl, ?_, hkeep,
        hpsk⟩
      rw [hnet]
      exact (Pass.check_eq_ok_iff.1 sound).2
  case kept =>
    intro k hk hfree
    refine hdistinct.mem_after_of_mem hk ?_
    intro q hq networks hsound hd
    obtain ⟨p, hp, hdev, rfl⟩ := (h.mem_peers_iff hs hps).1 hq
    obtain ⟨hvalid, hnet⟩ := Pass.check_eq_ok_iff.1 hsound
    exact hfree p hp ⟨hdev, hvalid, networks, hnet⟩ hd
  case nodup => exact hdistinct.nodup_after

/-- A pass that succeeds brings the kernel in line with the stored peers of its device. -/
theorem syncDevice_converges (hg : r.gateway.Faithful peersOf) (hs : r.peers.Faithful Holds)
    (hps : Holds w.peers ps) (hkeys : (ps.map Peer.publicKey).Nodup)
    (hkernel : ∀ d, r.devices.get w.devices id = .ok d →
      ((peersOf w.kernel d.name).map KernelPeer.publicKey).Nodup)
    (h : r.syncDevice id w = (.ok report, w')) :
    ∃ d, r.devices.get w.devices id = .ok d ∧
      Converged id ps report (peersOf w.kernel d.name) (peersOf w'.kernel d.name) := by
  obtain ⟨i, device, hc⟩ := syncDevice_ok h
  exact ⟨i.device, hc.stored, hc.converged hg hs hps hkeys (hkernel i.device hc.stored)⟩

end Reconciler

/-! ## A pass over a drifted kernel -/

namespace Sample

open Reconciler

/-- One enabled peer that the kernel lacks, and a disabled one that it has. -/
def drifted : List Peer := [peer 1 true ["10.0.0.2/32"], peer 2 false ["10.0.0.3/32"]]

/-- The disabled peer, and one that no record describes. -/
def driftedKernel : List KernelPeer := [kernelPeer 2 [ip 3], kernelPeer 9 [ip 9]]

/-- The drifted kernel and the stored peers. -/
def driftedWorld : World MemoryKernel MemoryPeers MemoryDevices :=
  memoryWorld (interface driftedKernel) [device] drifted

theorem syncDevice_converges_drifted :
    ∃ report w', (inMemory .default).syncDevice device.id driftedWorld = (.ok report, w') ∧
      report.pushed = [uuid 1] ∧ report.removed = [uuid 2] ∧
      ∃ d, (inMemory .default).devices.get driftedWorld.devices device.id = .ok d ∧
        Converged device.id drifted report (driftedWorld.kernel.peersOf d.name)
          (w'.kernel.peersOf d.name) := by
  have hrun : ((inMemory .default).syncDevice device.id driftedWorld).1
      = .ok ⟨[device.name], [], [uuid 1], [uuid 2], [], []⟩ := by decide +kernel
  refine ⟨_, _, Prod.ext hrun rfl, rfl, rfl, ?_⟩
  refine syncDevice_converges MemoryKernel.faithful MemoryPeers.faithful
    (holds_memoryWorld (by decide)) (by decide) ?_ (Prod.ext hrun rfl)
  intro d _
  show ((driftedWorld.kernel.peersOf d.name).map KernelPeer.publicKey).Nodup
  rw [driftedWorld, peersOf_memoryWorld]
  split
  · decide
  · decide

end Sample

end TunnelKeeper
