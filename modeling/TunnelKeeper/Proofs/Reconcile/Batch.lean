import TunnelKeeper.Proofs.Reconcile.Pass

/-!
# What the kernel has once a plan is carried out

`Pass.Input.after` is the kernel's peers once the changes of a plan were applied to them. Where
neither the listing nor the kernel has a key twice (`Distinct`), the changes concern every key once
and do all their work at once (`after_eq`). So a peer of the kernel's stays unless its record is
disabled (`mem_after_of_mem`), a disabled record has no peer there (`notMem_after_of_disabled`), and
an enabled one has unless it conflicts (`mem_after_of_enabled`).
-/

namespace TunnelKeeper

namespace Pass.Input

variable {i : Input} {p q : Peer} {v : Verdict} {k : KernelPeer} {networks : List Cidr}

/-- The kernel's peers once the changes were applied to them. -/
def after (i : Input) : List KernelPeer := PeerChange.applyAll i.changes i.snapshot.peers

/-- Neither the listing nor the kernel has a key twice. -/
structure Distinct (i : Input) : Prop where
  peers : (i.peers.map Peer.publicKey).Nodup
  kernel : (i.snapshot.peers.map KernelPeer.publicKey).Nodup

/-- Of the listing, one peer is known by its key. -/
theorem Distinct.eq_of_key (h : i.Distinct) (hp : p ∈ i.peers) (hq : q ∈ i.peers)
    (he : p.publicKey = q.publicKey) : p = q := List.inj_on_of_nodup_map h.peers hp hq he

/-! ## Verdicts -/

theorem exists_verdict (hp : p ∈ i.peers) : ∃ v, (p, v) ∈ i.verdicts :=
  Pass.exists_verdict i.snapshot i.start hp

theorem exists_judged (h : (p, v) ∈ i.verdicts) :
    p ∈ i.peers ∧ ∃ before after, Judged i.snapshot before p v after := by
  obtain ⟨before, after, -, hj, -⟩ := Pass.exists_judged h
  exact ⟨mem_of_mem_judgeAll h, before, after, hj⟩

theorem mem_changes (h : (p, v) ∈ i.verdicts) {c : PeerChange} (hc : v.change? = some c) :
    c ∈ i.changes := Pass.mem_changes.2 ⟨p, v, h, hc⟩

/-! ## The batch -/

theorem Distinct.applicable (h : i.Distinct) : PeerChange.Applicable i.changes i.snapshot.peers := by
  refine ⟨(sublist_changes _ _ _).nodup h.peers, h.kernel, fun c hc hr => ?_⟩
  obtain ⟨p, -, networks, -, ⟨-, rfl, habsent⟩ | ⟨-, rfl, -⟩⟩ := spec_change hc
  · exact ⟨rfl, habsent⟩
  · cases hr

theorem Distinct.after_eq (h : i.Distinct) :
    i.after = i.snapshot.peers.filter (PeerChange.spares i.changes)
      ++ (i.changes.filter fun c => !c.remove).map PeerChange.installed :=
  h.applicable.applyAll_eq

theorem Distinct.nodup_after (h : i.Distinct) : (i.after.map KernelPeer.publicKey).Nodup :=
  h.applicable.nodup_applyAll

/-- The batch spares a peer of the kernel's unless it is that of a sound disabled record. -/
theorem spares_changes
    (h : ∀ q ∈ i.peers, ∀ networks, check q = .ok networks → q.isEnabled = false →
      q.publicKey ≠ k.publicKey) : PeerChange.spares i.changes k = true := by
  refine List.all_eq_true.2 fun c hc => ?_
  obtain ⟨q, hq, networks, hsound, ⟨-, rfl, -⟩ | ⟨hd, rfl, -⟩⟩ := spec_change hc
  · rfl
  · have hne := h q hq networks hsound hd
    simp [PeerChange.removal, hne]

theorem not_spares_changes (h : PeerChange.removal k.publicKey ∈ i.changes) :
    PeerChange.spares i.changes k = false := by
  refine Bool.eq_false_iff.2 fun hs => ?_
  have := List.all_eq_true.1 hs _ h
  simp [PeerChange.removal] at this

/-! ## What is there afterwards -/

/-- What a change installs is there. -/
theorem Distinct.installed_mem_after (h : i.Distinct) {c : PeerChange} (hc : c ∈ i.changes)
    (hr : c.remove = false) : c.installed ∈ i.after := by
  rw [h.after_eq]
  exact List.mem_append_right _ (List.mem_map_of_mem (List.mem_filter.2 ⟨hc, by simp [hr]⟩))

/-- A peer of the kernel's stays as it is unless it is that of a sound disabled record. -/
theorem Distinct.mem_after_of_mem (h : i.Distinct) (hk : k ∈ i.snapshot.peers)
    (hfree : ∀ q ∈ i.peers, ∀ networks, check q = .ok networks → q.isEnabled = false →
      q.publicKey ≠ k.publicKey) : k ∈ i.after := by
  rw [h.after_eq]
  exact List.mem_append_left _ (List.mem_filter.2 ⟨hk, spares_changes hfree⟩)

/-- A peer of the kernel's that is there belongs to an enabled record or was there before. -/
theorem Distinct.mem_after_cases (h : i.Distinct) (hk : k ∈ i.after) :
    (k ∈ i.snapshot.peers ∧ PeerChange.spares i.changes k = true) ∨
      ∃ q ∈ i.peers, q.isEnabled = true ∧ k.publicKey = q.publicKey := by
  rw [h.after_eq, List.mem_append] at hk
  rcases hk with hk | hk
  · exact .inl (List.mem_filter.1 hk)
  · obtain ⟨c, hc, rfl⟩ := List.mem_map.1 hk
    obtain ⟨hc, hr⟩ := List.mem_filter.1 hc
    obtain ⟨q, hq, networks, -, ⟨he, rfl, -⟩ | ⟨-, rfl, -⟩⟩ := spec_change hc
    · exact .inr ⟨q, hq, he, rfl⟩
    · cases hr

/-- The peer of an enabled record stays as it is. -/
theorem Distinct.mem_after_of_present (h : i.Distinct) (hp : p ∈ i.peers) (he : p.isEnabled = true)
    (hk : k ∈ i.snapshot.peers) (hkey : k.publicKey = p.publicKey) : k ∈ i.after := by
  refine h.mem_after_of_mem hk fun q hq _ _ hd hsame => ?_
  rw [h.eq_of_key hq hp (hsame.trans hkey), he] at hd
  cases hd

/-- The peer of an enabled record was there before, or its record was pushed where there was none. -/
theorem Distinct.spec_after_of_enabled (h : i.Distinct) (hp : p ∈ i.peers) (hk : k ∈ i.after)
    (hkey : k.publicKey = p.publicKey) :
    k ∈ i.snapshot.peers ∨ p.publicKey ∉ i.snapshot.peers.map KernelPeer.publicKey ∧
      ∃ networks, check p = .ok networks ∧ k = (p.changeFor networks).installed := by
  rw [h.after_eq, List.mem_append] at hk
  rcases hk with hk | hk
  · exact .inl (List.mem_filter.1 hk).1
  · obtain ⟨c, hc, rfl⟩ := List.mem_map.1 hk
    obtain ⟨hc, hr⟩ := List.mem_filter.1 hc
    obtain ⟨q, hq, networks, hsound, ⟨-, rfl, habsent⟩ | ⟨-, rfl, -⟩⟩ := spec_change hc
    · obtain rfl := h.eq_of_key hq hp hkey
      exact .inr ⟨habsent, networks, hsound, rfl⟩
    · cases hr

/-- A sound disabled record has no peer in the kernel. -/
theorem Distinct.notMem_after_of_disabled (h : i.Distinct) (hp : p ∈ i.peers)
    (hsound : check p = .ok networks) (hd : p.isEnabled = false) :
    p.publicKey ∉ i.after.map KernelPeer.publicKey := by
  intro hmem
  obtain ⟨k, hk, hkey⟩ := List.mem_map.1 hmem
  rcases h.mem_after_cases hk with ⟨hk, hsp⟩ | ⟨q, hq, he, hkey'⟩
  · obtain ⟨v, hm⟩ := exists_verdict hp
    obtain ⟨-, before, after, hj⟩ := exists_judged hm
    obtain ⟨-, ⟨-, rfl⟩ | ⟨habsent, -⟩⟩ := hj.of_disabled hsound hd
    · rw [not_spares_changes (mem_changes hm (by rw [hkey]; rfl))] at hsp
      cases hsp
    · exact habsent (List.mem_map.2 ⟨k, hk, hkey⟩)
  · rw [h.eq_of_key hq hp (hkey'.symm.trans hkey), hd] at he
    cases he

/-- A sound enabled record that does not conflict has a peer in the kernel. -/
theorem Distinct.mem_after_of_enabled (h : i.Distinct) (hp : p ∈ i.peers)
    (hsound : check p = .ok networks) (he : p.isEnabled = true)
    (hc : (p, Verdict.conflicting) ∉ i.verdicts) :
    p.publicKey ∈ i.after.map KernelPeer.publicKey := by
  obtain ⟨v, hm⟩ := exists_verdict hp
  obtain ⟨-, before, after, hj⟩ := exists_judged hm
  obtain ⟨hin, -⟩ | ⟨-, ⟨-, rfl, -⟩ | ⟨-, rfl, -⟩⟩ := hj.of_enabled hsound he
  · obtain ⟨k, hk, hkey⟩ := List.mem_map.1 hin
    exact List.mem_map.2 ⟨k, h.mem_after_of_present hp he hk hkey, hkey⟩
  · exact List.mem_map.2 ⟨_, h.installed_mem_after (mem_changes hm rfl) rfl, rfl⟩
  · exact absurd hm hc

end Pass.Input

end TunnelKeeper
