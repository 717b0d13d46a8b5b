import TunnelKeeper.Proofs.Kernel.Faithful
import TunnelKeeper.Proofs.Reconcile.Batch
import TunnelKeeper.Proofs.Store.Faithful

/-!
# What a pass does to a faithful kernel

A pass that succeeds has applied its changes to the peers of its interface and left every other
interface (`Completed.effect`); one that fails has left them all (`Spared.same_peers`). Over a store
that holds peers, the listing a pass goes by is the peers of its device (`Completed.mem_peers_iff`).
-/

namespace TunnelKeeper.Reconciler

variable {κ σ δ : Type} {r : Reconciler κ σ δ} {peersOf : κ → String → List KernelPeer}
  {Holds : σ → List Peer → Prop} {id : Uuid} {w w' : World κ σ δ} {i : Pass.Input} {device : Device}
  {report : SyncReport} {ps : List Peer}

/-! ## The kernel -/

theorem Spared.same_peers {g : Gateway κ} {k k' : κ} (hg : g.Faithful peersOf) (h : Spared g k k') :
    peersOf k' = peersOf k := by
  have hread : ∀ name, peersOf (g.read name k).2 = peersOf k := by
    intro name
    rcases hr : g.read name k with ⟨e | s, k₁⟩
    · exact hg.read_error hr
    · exact (hg.read_ok hr).2
  cases h with
  | untouched => rfl
  | read name => exact hread name
  | @refused name _ _ _ _ _ refused => exact (hg.configure_error refused).trans (hread name)

/-- A pass that succeeds saw the peers of its interface and applied its changes to them. -/
theorem Completed.effect (hg : r.gateway.Faithful peersOf)
    (h : r.Completed id w i device report w') :
    i.snapshot.peers = peersOf w.kernel i.device.name ∧
      peersOf w'.kernel i.device.name
        = PeerChange.applyAll i.changes (peersOf w.kernel i.device.name) ∧
      ∀ other, other ≠ i.device.name → peersOf w'.kernel other = peersOf w.kernel other := by
  obtain ⟨hpeers, hsame⟩ := hg.read_ok (Prod.ext h.live rfl)
  refine ⟨hpeers, ?_⟩
  rcases h.sent with ⟨hc, hk⟩ | ⟨-, hk⟩
  · rw [hk, hsame, hc]
    exact ⟨rfl, fun _ _ => rfl⟩
  · obtain ⟨h1, h2⟩ := hg.configure_ok hk
    rw [hsame] at h1 h2
    exact ⟨h1, h2⟩

/-! ## The listing -/

theorem Completed.perm_peers (hs : r.peers.Faithful Holds) (hps : Holds w.peers ps)
    (h : r.Completed id w i device report w') :
    i.peers.Perm ((ps.filter fun p => p.deviceId = id).map Peer.stored) := by
  obtain ⟨page, hl, hitems⟩ := h.listed
  exact hitems ▸ hs.list hps hl

/-- The listing is what is stored of the device. -/
theorem Completed.mem_peers_iff (hs : r.peers.Faithful Holds) (hps : Holds w.peers ps)
    (h : r.Completed id w i device report w') {q : Peer} :
    q ∈ i.peers ↔ ∃ p ∈ ps, p.deviceId = id ∧ p.stored = q := by
  rw [(h.perm_peers hs hps).mem_iff, List.mem_map]
  simp [and_assoc]

theorem Completed.nodup_keys (hs : r.peers.Faithful Holds) (hps : Holds w.peers ps)
    (hkeys : (ps.map Peer.publicKey).Nodup) (h : r.Completed id w i device report w') :
    (i.peers.map Peer.publicKey).Nodup := by
  rw [((h.perm_peers hs hps).map Peer.publicKey).nodup_iff, List.map_map]
  exact (List.filter_sublist.map Peer.publicKey).nodup hkeys

end TunnelKeeper.Reconciler
