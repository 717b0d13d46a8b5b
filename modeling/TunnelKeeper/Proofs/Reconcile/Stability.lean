import TunnelKeeper.Proofs.InMemory
import TunnelKeeper.Proofs.Reconcile.Effect

/-!
# Passes come to rest

A pass that takes a disabled peer out of the kernel may free an address that another peer waited
for, so the next pass may still have something to do. The one after it has nothing to do
(`passes_stabilise`): it reserves for the kernel what the pass before it let its peers claim in turn,
so along the listing its pool stays between the pool of that pass and the pool that pass ended with
(`changes_settle`), and every claim comes out the same again.
-/

namespace TunnelKeeper

namespace AddressPool

variable {p q f : AddressPool} {ips : List IpAddress} {peer : Uuid}

/-- A claim has the same outcome on a pool between the one it was made on and one that has what it
took. -/
theorem claim_between (hq : q.Extends p) (hf : f.Extends q)
    (hclaim : f.Extends (p.claim ips peer).2) :
    (q.claim ips peer).2.Extends (p.claim ips peer).2 ∧ f.Extends (q.claim ips peer).2 := by
  by_cases hp : p.Grants peer ips
  · have hheld : ∀ a ∈ ips, f.holder? a = some (.peer peer) := fun a ha =>
      hclaim a _ (by rw [holder?_claim_of_grants hp, if_pos ha])
    have hgrants : q.Grants peer ips := by
      intro a ha h hh
      have := (hheld a ha).symm.trans (hf a h hh)
      exact (Option.some.inj this).symm
    refine ⟨fun a h hh => ?_, fun a h hh => ?_⟩
    · rw [holder?_claim_of_grants hp] at hh
      rw [holder?_claim_of_grants hgrants]
      by_cases ha : a ∈ ips
      · rw [if_pos ha] at hh ⊢
        exact hh
      · rw [if_neg ha] at hh ⊢
        exact hq a h hh
    · rw [holder?_claim_of_grants hgrants] at hh
      by_cases ha : a ∈ ips
      · rw [if_pos ha] at hh
        rw [← hh]
        exact hheld a ha
      · rw [if_neg ha] at hh
        exact hf a h hh
  · have hq' : ¬ q.Grants peer ips := fun h => hp (h.anti hq)
    rw [claim_eq_of_not_grants hp, claim_eq_of_not_grants hq']
    exact ⟨hq, hf⟩

end AddressPool

namespace Pass

variable {s s' : Snapshot} {pool pool' : AddressPool} {p : Peer} {v : Verdict} {networks : List Cidr}
  {ps : List Peer}

/-! ## The next pass along the listing -/

theorem Judged.of_inKernel (h : Judged s pool p v pool') (hsound : check p = .ok networks)
    (he : p.isEnabled = true) (hk : p.publicKey ∈ s.peers.map KernelPeer.publicKey) :
    v = .present ∧ pool' = pool := by
  obtain ⟨-, hv, hpool⟩ | ⟨habsent, -⟩ := h.of_enabled hsound he
  · exact ⟨hv, hpool⟩
  · exact absurd hk habsent

/-- One verdict of the next pass: it changes nothing where the kernel has what it had or got when
the pass before it made the verdict `v`, and the pool stays between the pools of that pass. -/
theorem Judged.settle {f next next' : AddressPool} {v' : Verdict} (hj : Judged s pool p v next)
    (hj' : Judged s' pool' p v' next') (hlow : pool'.Extends pool) (hhigh : f.Extends pool')
    (hlast : f.Extends next)
    (hkept : ∀ key ∈ s.peers.map KernelPeer.publicKey, key ∈ s'.peers.map KernelPeer.publicKey)
    (hpushed : ∀ c, v = .pushed c → p.publicKey ∈ s'.peers.map KernelPeer.publicKey ∧
      ∀ a ∈ c.allowedIps.map Cidr.ip, pool'.holder? a = some (.peer p.id))
    (hdisabled : ∀ networks, check p = .ok networks → p.isEnabled = false →
      p.publicKey ∉ s'.peers.map KernelPeer.publicKey) :
    v'.change? = none ∧ next'.Extends next ∧ f.Extends next' := by
  cases hj with
  | invalid faulty =>
    cases hj' with
    | invalid => exact ⟨rfl, hlow, hhigh⟩
    | present sound | pushed sound | conflicting sound | removed sound | dormant sound =>
      rw [faulty] at sound
      cases sound
  | present sound enabled inKernel =>
    obtain ⟨rfl, rfl⟩ := hj'.of_inKernel sound enabled (hkept _ inKernel)
    exact ⟨rfl, hlow, hhigh⟩
  | pushed sound enabled _ grants =>
    obtain ⟨hk, hheld⟩ := hpushed _ rfl
    obtain ⟨rfl, rfl⟩ := hj'.of_inKernel sound enabled hk
    refine ⟨rfl, fun a h hh => ?_, hhigh⟩
    rw [AddressPool.holder?_claim_of_grants grants] at hh
    split at hh
    · rename_i ha
      rw [← hh]
      exact hheld a ha
    · exact hlow a h hh
  | conflicting sound enabled _ taken =>
    -- What stood in its way still does.
    obtain ⟨-, rfl, rfl⟩ | ⟨-, ⟨grants, -⟩ | ⟨-, rfl, rfl⟩⟩ := hj'.of_enabled sound enabled
    · exact ⟨rfl, hlow, hhigh⟩
    · exact absurd (grants.anti hlow) taken
    · exact ⟨rfl, hlow, hhigh⟩
  | removed sound disabled | dormant sound disabled =>
    obtain ⟨h1, h2⟩ := AddressPool.claim_between hlow hhigh hlast
    obtain ⟨rfl, ⟨inKernel, -⟩ | ⟨-, rfl⟩⟩ := hj'.of_disabled sound disabled
    · exact absurd inKernel (hdisabled _ sound disabled)
    · exact ⟨rfl, h1, h2⟩

/-- A pass has nothing to change where the kernel has what the pass before it had or pushed, and has
no peer of a disabled record, and where its pool lies between the first and the last pool of that
pass and has what that pass pushed. -/
theorem changes_settle {f : AddressPool} (hlow : pool'.Extends pool) (hhigh : f.Extends pool')
    (hlast : f.Extends (judgeAll s pool ps).2)
    (hkept : ∀ key ∈ s.peers.map KernelPeer.publicKey, key ∈ s'.peers.map KernelPeer.publicKey)
    (hpushed : ∀ p c, (p, .pushed c) ∈ (judgeAll s pool ps).1 →
      p.publicKey ∈ s'.peers.map KernelPeer.publicKey ∧
        ∀ a ∈ c.allowedIps.map Cidr.ip, pool'.holder? a = some (.peer p.id))
    (hdisabled : ∀ p ∈ ps, ∀ networks, check p = .ok networks → p.isEnabled = false →
      p.publicKey ∉ s'.peers.map KernelPeer.publicKey) :
    changes (judgeAll s' pool' ps).1 = [] := by
  induction ps generalizing pool pool' with
  | nil => rfl
  | cons p ps ih =>
    have hj' := judged_judge s' pool' p
    rw [judgeAll_cons] at hlast hpushed ⊢
    obtain ⟨hv, hlow', hhigh'⟩ := (judged_judge s pool p).settle hj' hlow hhigh
      (hlast.trans (extends_judgeAll s _ ps)) hkept
      (fun c hc => hpushed p c (hc ▸ List.mem_cons_self)) (hdisabled p List.mem_cons_self)
    rw [changes_cons, hv, Option.toList_none, List.nil_append]
    refine ih hlow' hhigh' hlast (fun q c hm => ?_) fun q hq => hdisabled q (List.mem_cons_of_mem _ hq)
    obtain ⟨hkey, hheld⟩ := hpushed q c (List.mem_cons_of_mem _ hm)
    exact ⟨hkey, fun a ha => hj'.extends a _ (hheld a ha)⟩

/-! ## The pass after a pass -/

namespace Input

variable {i : Input}

/-- Reserving for kernel peers what `f` has reserved for their owners stays within `f`. -/
theorem reserveKernel_within {stored : List Peer} {f : AddressPool} {ks : List KernelPeer}
    (hf : f.Extends pool)
    (hk : ∀ k ∈ ks, ∀ a ∈ k.allowedIps.map Cidr.ip, f.holder? a = some (holderOf stored k)) :
    f.Extends (reserveKernel stored pool ks) := by
  induction ks generalizing pool with
  | nil => exact hf
  | cons k ks ih =>
    rw [reserveKernel_cons]
    refine ih (fun a h hh => ?_) fun k' hk' => hk k' (List.mem_cons_of_mem _ hk')
    rw [AddressPool.holder?_reserveAllFor, Option.or_eq_some_iff] at hh
    rcases hh with hh | ⟨-, hh⟩
    · exact hf a h hh
    · split at hh
      · rename_i ha
        rw [← hh]
        exact hk k List.mem_cons_self a ha
      · cases hh

/-- What a push installs is reserved for the peer in the pool that the pass ends with. -/
theorem holder?_of_pushed {c : PeerChange} (h : (p, .pushed c) ∈ i.verdicts) {a : IpAddress}
    (ha : a ∈ c.allowedIps.map Cidr.ip) : i.pool.holder? a = some (.peer p.id) := by
  obtain ⟨before, after, -, hj, hlast⟩ := Pass.exists_judged h
  cases hj with
  | pushed _ _ _ grants =>
    exact hlast a _ ((AddressPool.holder?_claim_of_grants grants a).trans (if_pos ha))

/-- A pass with no disabled peer to take out only adds to the kernel. -/
theorem Distinct.after_eq_append (h : i.Distinct) (hno : ∀ c ∈ i.changes, c.remove = false) :
    i.after = i.snapshot.peers ++ i.changes.map PeerChange.installed := by
  have hspared : ∀ k ∈ i.snapshot.peers, PeerChange.spares i.changes k = true := by
    intro k _
    refine List.all_eq_true.2 fun c hc => ?_
    rw [hno c hc]
    rfl
  rw [h.after_eq, List.filter_eq_self.2 hspared,
    List.filter_eq_self.2 fun c hc => by rw [hno c hc]; rfl]

/-- What it adds is reserved for the stored peers that own it. -/
theorem Distinct.holder?_of_installed (h : i.Distinct) (hno : ∀ c ∈ i.changes, c.remove = false)
    {k : KernelPeer} (hk : k ∈ i.changes.map PeerChange.installed) {a : IpAddress}
    (ha : a ∈ k.allowedIps.map Cidr.ip) : i.pool.holder? a = some (holderOf i.peers k) := by
  obtain ⟨c, hc, rfl⟩ := List.mem_map.1 hk
  obtain ⟨p, v, hm, hv⟩ := Pass.mem_changes.1 hc
  obtain ⟨hp, before, after, hj⟩ := exists_judged hm
  cases hj with
  | pushed =>
    obtain rfl := Option.some.inj hv
    rw [holderOf_eq h.peers hp rfl]
    exact holder?_of_pushed hm ha
  | removed =>
    obtain rfl := Option.some.inj hv
    cases hno _ hc
  | invalid | conflicting | present | dormant => cases hv

/-- So the next pass begins by reserving that. -/
theorem Distinct.start_next (h : i.Distinct) (hno : ∀ c ∈ i.changes, c.remove = false)
    (hnext : s'.peers = i.after) : (i.relive s').start
      = reserveKernel i.peers i.start (i.changes.map PeerChange.installed) := by
  rw [start, snapshot_relive, hnext, h.after_eq_append hno, reserveKernel_append]
  rfl

/-- Once a pass had no disabled peer to take out, the next one has nothing to change. -/
theorem Distinct.changes_next (h : i.Distinct) (hno : ∀ c ∈ i.changes, c.remove = false)
    (hnext : s'.peers = i.after) : (i.relive s').changes = [] := by
  have hstart := h.start_next hno hnext
  have hkeys : (i.relive s').snapshot.peers.map KernelPeer.publicKey
      = i.snapshot.peers.map KernelPeer.publicKey
        ++ (i.changes.map PeerChange.installed).map KernelPeer.publicKey := by
    rw [snapshot_relive, hnext, h.after_eq_append hno, List.map_append]
  have hwithin : i.pool.Extends (i.relive s').start := by
    rw [hstart]
    exact reserveKernel_within i.pool_extends fun k hk a ha => h.holder?_of_installed hno hk ha
  refine changes_settle (s := i.snapshot) (f := i.pool) ?_ hwithin (.refl i.pool) ?_ ?_ ?_
  · rw [hstart]
    exact extends_reserveKernel _ _ _
  · intro key hkey
    rw [hkeys]
    exact List.mem_append_left _ hkey
  · intro p c hm
    have hc : c.installed ∈ i.changes.map PeerChange.installed :=
      List.mem_map_of_mem (mem_changes hm rfl)
    obtain ⟨-, before, after, hj⟩ := exists_judged hm
    refine ⟨?_, fun a ha => ?_⟩
    · rw [hkeys, ← hj.publicKey_of_change? rfl]
      exact List.mem_append_right _ (List.mem_map.2 ⟨c.installed, hc, rfl⟩)
    · have hcontains : (i.relive s').start.contains a = true := by
        rw [hstart, contains_reserveKernel]
        refine .inr ⟨c.installed, hc, ?_⟩
        cases hj with
        | pushed => exact ha
      obtain ⟨holder, hh⟩ := AddressPool.contains_iff.1 hcontains
      exact hh.trans ((hwithin a holder hh).symm.trans (holder?_of_pushed hm ha))
  · intro p hp networks hsound hd
    rw [snapshot_relive, hnext]
    exact h.notMem_after_of_disabled hp hsound hd

/-- A pass takes every disabled peer out, so the next one has none to take out. -/
theorem Distinct.no_removal_next (h : i.Distinct) (hnext : s'.peers = i.after) {c : PeerChange}
    (hc : c ∈ (i.relive s').changes) : c.remove = false := by
  obtain ⟨p, hp, networks, hsound, ⟨-, rfl, -⟩ | ⟨hd, -, hk⟩⟩ := spec_change hc
  · rfl
  · rw [snapshot_relive, hnext] at hk
    exact absurd hk (h.notMem_after_of_disabled hp hsound hd)

/-- Once no peer conflicted, the next pass has nothing to change. -/
theorem Distinct.changes_next_of_clean (h : i.Distinct)
    (hclean : ∀ p, (p, Verdict.conflicting) ∉ i.verdicts) (hnext : s'.peers = i.after) :
    (i.relive s').changes = [] := by
  refine List.eq_nil_iff_forall_not_mem.2 fun c hc => ?_
  obtain ⟨p, hp, networks, hsound, ⟨he, -, hk⟩ | ⟨hd, -, hk⟩⟩ := spec_change hc
  · rw [snapshot_relive, hnext] at hk
    exact hk (h.mem_after_of_enabled hp hsound he (hclean p))
  · rw [snapshot_relive, hnext] at hk
    exact h.notMem_after_of_disabled hp hsound hd hk

end Input

end Pass

/-! ## Kernels that refuse nothing -/

namespace MemoryKernel

variable {k k' : MemoryKernel} {name : String}

/-- From `k` to `k'` nothing was asked of the kernel but to read, and its table is the same. -/
def OnlyRead (k k' : MemoryKernel) : Prop :=
  k'.table = k.table ∧
    ∃ calls, k'.calls = k.calls ++ calls ∧ ∀ c ∈ calls, c.request.operation = .read

theorem OnlyRead.refl (k : MemoryKernel) : k.OnlyRead k := ⟨rfl, [], by simp, by simp⟩

/-- A kernel without orders to refuse carries a call out. -/
theorem call_eq {α : Type} (hf : k.faults = []) (device : String) (request : KernelRequest)
    (effect : KernelTable → Except KernelError α × KernelTable) :
    call device request effect k = ((effect k.table).1,
      { k with table := (effect k.table).2, calls := k.calls ++ [⟨request, device, false⟩] }) := by
  have hnone : k.fault? request.operation device = none := by rw [fault?, hf]; rfl
  rw [call, hnone]

theorem spec_read (hf : k.faults = []) (name : String) :
    k.OnlyRead (gateway.read name k).2 ∧ (gateway.read name k).2.faults = [] ∧
      ∀ s, (gateway.read name k).1 = .ok s ↔ k.table[name]? = some s := by
  simp only [gateway, call_eq hf]
  cases ht : k.table[name]? with
  | none => exact ⟨⟨rfl, [_], rfl, by simp [KernelRequest.operation]⟩, hf, by simp⟩
  | some t => exact ⟨⟨rfl, [_], rfl, by simp [KernelRequest.operation]⟩, hf, by simp⟩

theorem spec_configure (hf : k.faults = []) {name : String} {s : Snapshot}
    (ht : k.table[name]? = some s) (changes : List PeerChange) :
    ∃ k', gateway.configure name changes k = (.ok (), k') ∧ k'.faults = [] := by
  simp only [gateway, call_eq hf, ht]
  exact ⟨_, rfl, hf⟩

end MemoryKernel

/-! ## Passes one after another -/

namespace Reconciler

variable {σ δ : Type} {r : Reconciler MemoryKernel σ δ} {Holds : σ → List Peer → Prop} {id : Uuid}
  {w₀ w w' w'' : World MemoryKernel σ δ} {i i' : Pass.Input} {device device' : Device}
  {report report' : SyncReport} {ps : List Peer}

/-- The world after so many passes over a device. -/
def afterPasses {κ : Type} (r : Reconciler κ σ δ) (id : Uuid) (w : World κ σ δ) : Nat → World κ σ δ
  | 0 => w
  | n + 1 => (r.syncDevice id (r.afterPasses id w n)).2

/-- The stores are those of `w₀`, and the kernel refuses nothing and lists no key twice. -/
structure Calm (w₀ w : World MemoryKernel σ δ) : Prop where
  peers : w.peers = w₀.peers
  devices : w.devices = w₀.devices
  faults : w.kernel.faults = []
  keys : ∀ name, ((w.kernel.peersOf name).map KernelPeer.publicKey).Nodup

theorem Spared.onlyRead {k k' : MemoryKernel} (h : Spared MemoryKernel.gateway k k')
    (hf : k.faults = []) : k.OnlyRead k' ∧ k'.faults = [] := by
  cases h with
  | untouched => exact ⟨.refl k, hf⟩
  | read name =>
    obtain ⟨h1, h2, -⟩ := MemoryKernel.spec_read hf name
    exact ⟨h1, h2⟩
  | @refused name s changes e _ live refused =>
    obtain ⟨⟨htable, -⟩, hf', hread⟩ := MemoryKernel.spec_read hf name
    obtain ⟨k₁, hk₁, -⟩ := MemoryKernel.spec_configure hf' (htable ▸ (hread s).1 live) changes
    cases refused.symm.trans hk₁

theorem Completed.faults (hr : r.gateway = MemoryKernel.gateway) (hf : w.kernel.faults = [])
    (h : r.Completed id w i device report w') : w'.kernel.faults = [] := by
  have hsent := h.sent
  have hlive := h.live
  rw [hr] at hsent hlive
  obtain ⟨⟨htable, -⟩, hf', hread⟩ := MemoryKernel.spec_read hf i.device.name
  rcases hsent with ⟨-, hk⟩ | ⟨-, hk⟩
  · rw [hk]
    exact hf'
  · obtain ⟨k, hk', hfk⟩ :=
      MemoryKernel.spec_configure hf' (htable ▸ (hread _).1 hlive) i.changes
    rw [hk'] at hk
    rw [← (Prod.mk.inj hk).2]
    exact hfk

/-- A pass without changes only reads. -/
theorem Completed.onlyRead (hr : r.gateway = MemoryKernel.gateway) (hf : w.kernel.faults = [])
    (h : r.Completed id w i device report w') (hc : i.changes = []) :
    w.kernel.OnlyRead w'.kernel := by
  rcases h.sent with ⟨-, hk⟩ | ⟨hne, -⟩
  · rw [hk, hr]
    exact (MemoryKernel.spec_read hf _).1
  · exact absurd hc hne

/-- The pass after a pass goes by the same input, with what that pass left in the kernel. -/
theorem Completed.next (hr : r.gateway = MemoryKernel.gateway)
    (h : r.Completed id w i device report w') (h' : r.Completed id w' i' device' report' w'') :
    ∃ s, i' = i.relive s ∧ s.peers = i.after := by
  obtain ⟨hlive, hafter, -⟩ := h.effect (hr ▸ MemoryKernel.faithful)
  obtain ⟨hlive', -⟩ := h'.effect (hr ▸ MemoryKernel.faithful)
  have hdevice : i'.device = i.device :=
    Except.ok.inj (h'.stored.symm.trans (h.devices ▸ h.stored))
  have hbase : i'.base = i.base := by
    have := h'.base
    rw [hdevice, h.base] at this
    exact (Except.ok.inj this).symm
  have hpeers : i'.peers = i.peers := by
    obtain ⟨page, hl, hitems⟩ := h.listed
    obtain ⟨page', hl', hitems'⟩ := h'.listed
    rw [h.peers, hl] at hl'
    rw [← hitems, ← hitems', Except.ok.inj hl']
  refine ⟨i'.snapshot, ?_, ?_⟩
  · cases i'
    simp only at hdevice hbase hpeers
    rw [hdevice, hbase, hpeers]
    rfl
  · rw [hlive', hdevice, hafter, ← hlive]
    rfl

/-- A pass succeeds once its input can be read. -/
theorem pass_ok_of_reads (hr : r.gateway = MemoryKernel.gateway) (hf : w.kernel.faults = [])
    (h : r.Reads id w i) : ∃ report w', r.pass id w = (.ok report, w') := by
  obtain ⟨⟨htable, -⟩, hf', hread⟩ := MemoryKernel.spec_read hf i.device.name
  have hlive := h.live
  rw [hr] at hlive
  obtain ⟨k, hk, -⟩ :=
    MemoryKernel.spec_configure hf' (htable ▸ (hread _).1 hlive) i.changes
  obtain ⟨w', hpass⟩ := pass_ok_of_taken h (.inr (by rw [hr, hk]))
  exact ⟨_, w', hpass⟩

/-- The pass before a pass that succeeds succeeded as well: where it fails, it leaves the kernel and
the stores as they are, and fails again. -/
theorem Completed.previous (hr : r.gateway = MemoryKernel.gateway) (hf : w.kernel.faults = [])
    (h : r.Completed id (r.syncDevice id w).2 i' device' report' w'') :
    ∃ i device report, r.Completed id w i device report (r.syncDevice id w).2 := by
  rcases hrun : r.syncDevice id w with ⟨e | report, w'⟩
  · exfalso
    rw [hrun] at h
    obtain ⟨k, hk, rfl⟩ := syncDevice_error hrun
    rw [hr] at hk
    obtain ⟨⟨htable, -⟩, hf'⟩ := hk.onlyRead hf
    have hlive := h.live
    rw [hr, (MemoryKernel.spec_read hf' _).2.2, htable, ← (MemoryKernel.spec_read hf _).2.2, ← hr]
      at hlive
    obtain ⟨report, w₁, hpass⟩ := pass_ok_of_reads hr hf (h.toReads.relive rfl rfl hlive)
    rw [syncDevice_of_pass hpass] at hrun
    cases hrun
  · obtain ⟨i, device, h⟩ := syncDevice_ok hrun
    exact ⟨i, device, report, h⟩

section Store

variable (hr : r.gateway = MemoryKernel.gateway) (hs : r.peers.Faithful Holds)
  (hps : Holds w₀.peers ps) (hkeys : (ps.map Peer.publicKey).Nodup)
include hr hs hps hkeys

theorem Completed.distinct (hw : Calm w₀ w) (h : r.Completed id w i device report w') :
    i.Distinct := by
  obtain ⟨hlive, -⟩ := h.effect (hr ▸ MemoryKernel.faithful)
  exact ⟨h.nodup_keys hs (hw.peers ▸ hps) hkeys, hlive ▸ hw.keys i.device.name⟩

theorem calm_syncDevice (hw : Calm w₀ w) : Calm w₀ (r.syncDevice id w).2 := by
  rcases hrun : r.syncDevice id w with ⟨e | report, w'⟩
  · obtain ⟨k, hk, rfl⟩ := syncDevice_error hrun
    rw [hr] at hk
    refine ⟨hw.peers, hw.devices, (hk.onlyRead hw.faults).2, fun name => ?_⟩
    show ((MemoryKernel.peersOf k name).map KernelPeer.publicKey).Nodup
    rw [hk.same_peers MemoryKernel.faithful]
    exact hw.keys name
  · obtain ⟨i, device, h⟩ := syncDevice_ok hrun
    obtain ⟨hlive, hafter, hother⟩ := h.effect (hr ▸ MemoryKernel.faithful)
    refine ⟨h.peers.trans hw.peers, h.devices.trans hw.devices, h.faults hr hw.faults, fun name => ?_⟩
    by_cases hn : name = i.device.name
    · rw [hn, hafter, ← hlive]
      exact (h.distinct hr hs hps hkeys hw).nodup_after
    · rw [hother name hn]
      exact hw.keys name

theorem calm_afterPasses (hw : Calm w₀ w) (n : Nat) : Calm w₀ (r.afterPasses id w n) := by
  induction n with
  | zero => exact hw
  | succ n ih => exact calm_syncDevice hr hs hps hkeys ih

/-- The third of three passes that succeed has nothing to change. -/
theorem Completed.changes_third {w₃ : World MemoryKernel σ δ} {i₃ : Pass.Input} {device₃ : Device}
    {report₃ : SyncReport} (hw : Calm w₀ w) (h : r.Completed id w i device report w')
    (h' : r.Completed id w' i' device' report' w'')
    (h₃ : r.Completed id w'' i₃ device₃ report₃ w₃) : i₃.changes = [] := by
  have hd := h.distinct hr hs hps hkeys hw
  obtain ⟨s, rfl, hs'⟩ := h.next hr h'
  obtain ⟨s₃, rfl, hs₃⟩ := h'.next hr h₃
  have hd' : (i.relive s).Distinct :=
    ⟨hd.peers, by rw [Pass.Input.snapshot_relive, hs']; exact hd.nodup_after⟩
  exact hd'.changes_next (fun c hc => hd.no_removal_next hs' hc) hs₃

/-- Two passes after a world without refusals, a pass only reads. -/
theorem onlyRead_third (id : Uuid) (hw : Calm w₀ w) :
    (r.afterPasses id w 2).kernel.OnlyRead (r.afterPasses id w 3).kernel := by
  have hw' : Calm w₀ (r.afterPasses id w 1) := calm_afterPasses hr hs hps hkeys hw 1
  have hw'' : Calm w₀ (r.afterPasses id w 2) := calm_afterPasses hr hs hps hkeys hw 2
  show (r.afterPasses id w 2).kernel.OnlyRead (r.syncDevice id (r.afterPasses id w 2)).2.kernel
  rcases hrun : r.syncDevice id (r.afterPasses id w 2) with ⟨e | report, w₃⟩
  · obtain ⟨k, hk, rfl⟩ := syncDevice_error hrun
    rw [hr] at hk
    exact (hk.onlyRead hw''.faults).1
  · obtain ⟨i₃, device₃, h₃⟩ := syncDevice_ok hrun
    obtain ⟨i', device', report', h'⟩ := h₃.previous hr hw'.faults
    obtain ⟨i, device, report, h⟩ := h'.previous hr hw.faults
    exact h₃.onlyRead hr hw''.faults (h.changes_third hr hs hps hkeys hw h' h₃)

/-- After a pass without conflicts, a pass only reads. -/
theorem Completed.onlyRead_next (hw : Calm w₀ w) (h : r.Completed id w i device report w')
    (hclean : report.conflicting = []) : w'.kernel.OnlyRead (r.syncDevice id w').2.kernel := by
  have hf := h.faults hr hw.faults
  rcases hrun : r.syncDevice id w' with ⟨e | report', w''⟩
  · obtain ⟨k, hk, rfl⟩ := syncDevice_error hrun
    rw [hr] at hk
    exact (hk.onlyRead hf).1
  · obtain ⟨i', device', h'⟩ := syncDevice_ok hrun
    obtain ⟨s, rfl, hs'⟩ := h.next hr h'
    refine h'.onlyRead hr hf ((h.distinct hr hs hps hkeys hw).changes_next_of_clean ?_ hs')
    intro p hp
    have hmem : p.id ∈ report.conflicting := by
      rw [h.report_eq]
      exact Pass.mem_conflicting.2 ⟨p, hp, rfl⟩
    rw [hclean] at hmem
    cases hmem

end Store

/-- When passes are run over a device one after another, the third and every later one only reads the
kernel, and the second does so already where the first reported no conflict. -/
theorem passes_stabilise (hr : r.gateway = MemoryKernel.gateway) (hs : r.peers.Faithful Holds)
    (hps : Holds w.peers ps) (hkeys : (ps.map Peer.publicKey).Nodup) (hf : w.kernel.faults = [])
    (hkernel : ∀ name, ((w.kernel.peersOf name).map KernelPeer.publicKey).Nodup) :
    (∀ n, 2 ≤ n → (r.afterPasses id w n).kernel.OnlyRead (r.afterPasses id w (n + 1)).kernel) ∧
      ∀ report w', r.syncDevice id w = (.ok report, w') → report.conflicting = [] →
        (r.afterPasses id w 1).kernel.OnlyRead (r.afterPasses id w 2).kernel := by
  have hw : Calm w w := ⟨rfl, rfl, hf, hkernel⟩
  refine ⟨fun n hn => ?_, fun report w' hrun hclean => ?_⟩
  · obtain ⟨m, rfl⟩ := Nat.exists_eq_add_of_le' hn
    have hm : Calm w (r.afterPasses id w m) := calm_afterPasses hr hs hps hkeys hw m
    exact onlyRead_third hr hs hps hkeys id hm
  · obtain ⟨i, device, h⟩ := syncDevice_ok hrun
    have hfirst : r.afterPasses id w 1 = w' := congrArg Prod.snd hrun
    rw [show r.afterPasses id w 2 = (r.syncDevice id (r.afterPasses id w 1)).2 from rfl, hfirst]
    exact h.onlyRead_next hr hs hps hkeys hw hclean

end Reconciler

/-! ## An address that the first pass frees -/

namespace Sample

open Reconciler

/-- A disabled peer, and an enabled one that declares what the kernel routes to it. -/
def waiting : List Peer := [peer 1 false ["10.0.0.3/32"], peer 2 true ["10.0.0.2/32"]]

/-- The first pass takes the disabled peer out of this kernel, the second puts the other one in. -/
def waitingWorld : World MemoryKernel MemoryPeers MemoryDevices :=
  memoryWorld (interface [kernelPeer 1 [ip 2]]) [device] waiting

/-- The same with the row of the disabled peer alone. -/
def clearWorld : World MemoryKernel MemoryPeers MemoryDevices :=
  memoryWorld (interface [kernelPeer 1 [ip 2]]) [device] (waiting.take 1)

theorem passes_stabilise_waiting :
    (∃ report w', (inMemory .default).syncDevice device.id waitingWorld = (.ok report, w') ∧
        report.conflicting = [uuid 2] ∧
        ∃ report' w'', (inMemory .default).syncDevice device.id w' = (.ok report', w'') ∧
          report'.pushed = [uuid 2]) ∧
      (∀ n, 2 ≤ n → ((inMemory .default).afterPasses device.id waitingWorld n).kernel.OnlyRead
        ((inMemory .default).afterPasses device.id waitingWorld (n + 1)).kernel) ∧
      ∃ report w', (inMemory .default).syncDevice device.id clearWorld = (.ok report, w') ∧
        report.removed = [uuid 1] ∧
        ((inMemory .default).afterPasses device.id clearWorld 1).kernel.OnlyRead
          ((inMemory .default).afterPasses device.id clearWorld 2).kernel := by
  have hnodup : ∀ ps name, (((memoryWorld (interface [kernelPeer 1 [ip 2]]) [device]
      ps).kernel.peersOf name).map KernelPeer.publicKey).Nodup := by
    intro ps name
    rw [peersOf_memoryWorld]
    split
    · decide
    · decide
  have hfirst : ((inMemory .default).syncDevice device.id waitingWorld).1
      = .ok ⟨[device.name], [], [], [uuid 1], [], [uuid 2]⟩ := by decide +kernel
  have hsecond : ((inMemory .default).syncDevice device.id
      ((inMemory .default).syncDevice device.id waitingWorld).2).1
      = .ok ⟨[device.name], [], [uuid 2], [], [], []⟩ := by decide +kernel
  have hclear : ((inMemory .default).syncDevice device.id clearWorld).1
      = .ok ⟨[device.name], [], [], [uuid 1], [], []⟩ := by decide +kernel
  refine ⟨⟨_, _, Prod.ext hfirst rfl, rfl, _, _, Prod.ext hsecond rfl, rfl⟩, ?_, _, _,
    Prod.ext hclear rfl, rfl, ?_⟩
  · exact (passes_stabilise rfl MemoryPeers.faithful (holds_memoryWorld (by decide)) (by decide) rfl
      (hnodup waiting)).1
  · exact (passes_stabilise rfl MemoryPeers.faithful (holds_memoryWorld (by decide)) (by decide) rfl
      (hnodup (waiting.take 1))).2 _ _ (Prod.ext hclear rfl) rfl

end Sample

end TunnelKeeper
