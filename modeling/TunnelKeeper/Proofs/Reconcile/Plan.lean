import TunnelKeeper.Proofs.Kernel.Changes
import TunnelKeeper.Proofs.Keyed
import TunnelKeeper.Proofs.Pool.Holders
import TunnelKeeper.Reconcile.Report

/-!
# What a pass plans

`Judged` lists what a pass can make of one stored peer, with the pool before and after; every fact
about a plan is read off it. Over a whole listing (`exists_judged`) each peer gets one verdict, on a
pool that has grown out of the first and has grown into the last. So what is reserved at the end is
what was reserved at the start and what the claims that succeeded took (`holder?_judgeAll`).
-/

namespace TunnelKeeper

theorem Snapshot.isSome_peer?_iff {s : Snapshot} {key : Key} :
    (s.peer? key).isSome = true ↔ key ∈ s.peers.map KernelPeer.publicKey := Keyed.isSome_find?

namespace Pass

variable {stored peers : List Peer} {snapshot : Snapshot} {pool : AddressPool} {p q : Peer}
  {networks : List Cidr} {a : IpAddress}

/-! ## Records -/

/-- A record is sound if it has no faults and its addresses are blocks. -/
theorem check_eq_ok_iff :
    check p = .ok networks ↔ p.validate = .ok () ∧ p.allowedNetworks = .ok networks := by
  unfold check
  cases p.validate with
  | error e => simp
  | ok u =>
    cases p.allowedNetworks with
    | error e => simp [Except.mapError]
    | ok cs => simp [Except.mapError]

/-! ## What the kernel takes up -/

/-- Of peers with distinct keys, each owns the kernel peer with its key. -/
theorem holderOf_eq {k : KernelPeer} (hn : (stored.map Peer.publicKey).Nodup) (hp : p ∈ stored)
    (hk : k.publicKey = p.publicKey) : holderOf stored k = .peer p.id := by
  have hrev : (stored.reverse.map Peer.publicKey).Nodup := by
    rwa [List.map_reverse, List.nodup_reverse]
  have howner : owner? stored k.publicKey = some p.id := by
    rw [owner?, List.findRev?_eq_findRev?TR, List.findRev?TR, hk,
      Keyed.find?_of_mem hrev (List.mem_reverse.2 hp), Option.map_some]
  rw [holderOf, howner]

/-- A kernel peer with nobody's key is the kernel's own. -/
theorem holderOf_of_absent {k : KernelPeer} (h : k.publicKey ∉ stored.map Peer.publicKey) :
    holderOf stored k = .kernel := by
  have howner : owner? stored k.publicKey = none := by
    rw [owner?, List.findRev?_eq_findRev?TR, List.findRev?TR, Option.map_eq_none_iff,
      List.find?_eq_none]
    intro p hp
    have hne : p.publicKey ≠ k.publicKey := fun he =>
      h (List.mem_map.2 ⟨p, List.mem_reverse.1 hp, he⟩)
    simpa using hne
  rw [holderOf, howner]

theorem reserveKernel_cons (stored : List Peer) (pool : AddressPool) (k : KernelPeer)
    (ks : List KernelPeer) :
    reserveKernel stored pool (k :: ks)
      = reserveKernel stored (pool.reserveAllFor (k.allowedIps.map Cidr.ip) (holderOf stored k)) ks :=
  rfl

theorem reserveKernel_append (stored : List Peer) (pool : AddressPool) (ks ks' : List KernelPeer) :
    reserveKernel stored pool (ks ++ ks')
      = reserveKernel stored (reserveKernel stored pool ks) ks' :=
  List.foldl_append

theorem extends_reserveKernel (stored : List Peer) (pool : AddressPool) (ks : List KernelPeer) :
    (reserveKernel stored pool ks).Extends pool := by
  induction ks generalizing pool with
  | nil => exact .refl pool
  | cons k ks ih =>
    rw [reserveKernel_cons]
    exact (ih _).trans (pool.extends_reserveAllFor _ _)

@[simp] theorem block_reserveKernel (stored : List Peer) (pool : AddressPool) (ks : List KernelPeer) :
    (reserveKernel stored pool ks).block = pool.block := by
  induction ks generalizing pool with
  | nil => rfl
  | cons k ks ih => rw [reserveKernel_cons, ih, AddressPool.block_reserveAllFor]

/-- The networks of `ks` take up the address `a`. -/
def Routed (ks : List KernelPeer) (a : IpAddress) : Prop := ∃ k ∈ ks, a ∈ k.allowedIps.map Cidr.ip

/-- What is reserved once the kernel's peers have theirs is what was and what they take up. -/
theorem contains_reserveKernel (stored : List Peer) (pool : AddressPool) (ks : List KernelPeer) :
    (reserveKernel stored pool ks).contains a = true ↔ pool.contains a = true ∨ Routed ks a := by
  induction ks generalizing pool with
  | nil => simp [reserveKernel, Routed]
  | cons k ks ih =>
    have hstep : (pool.reserveAllFor (k.allowedIps.map Cidr.ip) (holderOf stored k)).contains a = true
        ↔ pool.contains a = true ∨ a ∈ k.allowedIps.map Cidr.ip := by
      rw [AddressPool.contains, AddressPool.holder?_reserveAllFor, AddressPool.contains]
      by_cases ha : a ∈ k.allowedIps.map Cidr.ip
      · rw [if_pos ha]
        simp [ha]
      · rw [if_neg ha]
        simp [ha]
    have hrouted : Routed (k :: ks) a ↔ a ∈ k.allowedIps.map Cidr.ip ∨ Routed ks a := by
      simp [Routed]
    rw [reserveKernel_cons, ih, hstep, hrouted, or_assoc]

/-- Where nobody had an address, one of the kernel's peers that it is routed to gets it. -/
theorem holder?_reserveKernel (stored : List Peer) (pool : AddressPool) (ks : List KernelPeer)
    (a : IpAddress) :
    (reserveKernel stored pool ks).holder? a = pool.holder? a ∨ ∃ k ∈ ks,
      a ∈ k.allowedIps.map Cidr.ip ∧
        (reserveKernel stored pool ks).holder? a = some (holderOf stored k) := by
  induction ks generalizing pool with
  | nil => exact .inl rfl
  | cons k ks ih =>
    rw [reserveKernel_cons]
    rcases ih (pool.reserveAllFor (k.allowedIps.map Cidr.ip) (holderOf stored k))
      with hsame | ⟨k', hk', ha, hheld⟩
    · rw [hsame, AddressPool.holder?_reserveAllFor]
      cases hpool : pool.holder? a with
      | some h => exact .inl rfl
      | none =>
        by_cases ha : a ∈ k.allowedIps.map Cidr.ip
        · exact .inr ⟨k, List.mem_cons_self, ha, by rw [if_pos ha]; rfl⟩
        · exact .inl (by rw [if_neg ha]; rfl)
    · exact .inr ⟨k', List.mem_cons_of_mem _ hk', ha, hheld⟩

/-! ## One verdict -/

/-- What a pass makes of the stored peer `p`, with the pool after it. -/
inductive Judged (snapshot : Snapshot) (pool : AddressPool) (p : Peer) : Verdict → AddressPool → Prop
  | invalid {reason : String} (faulty : check p = .error reason) :
    Judged snapshot pool p (.invalid reason) pool
  | present {networks : List Cidr} (sound : check p = .ok networks) (enabled : p.isEnabled = true)
    (inKernel : p.publicKey ∈ snapshot.peers.map KernelPeer.publicKey) :
    Judged snapshot pool p .present pool
  | pushed {networks : List Cidr} (sound : check p = .ok networks) (enabled : p.isEnabled = true)
    (absent : p.publicKey ∉ snapshot.peers.map KernelPeer.publicKey)
    (grants : pool.Grants p.id (networks.map Cidr.ip)) :
    Judged snapshot pool p (.pushed (p.changeFor networks)) (pool.claim (networks.map Cidr.ip) p.id).2
  | conflicting {networks : List Cidr} (sound : check p = .ok networks) (enabled : p.isEnabled = true)
    (absent : p.publicKey ∉ snapshot.peers.map KernelPeer.publicKey)
    (taken : ¬ pool.Grants p.id (networks.map Cidr.ip)) :
    Judged snapshot pool p .conflicting pool
  | removed {networks : List Cidr} (sound : check p = .ok networks) (disabled : p.isEnabled = false)
    (inKernel : p.publicKey ∈ snapshot.peers.map KernelPeer.publicKey) :
    Judged snapshot pool p (.removed (.removal p.publicKey))
      (pool.claim (networks.map Cidr.ip) p.id).2
  | dormant {networks : List Cidr} (sound : check p = .ok networks) (disabled : p.isEnabled = false)
    (absent : p.publicKey ∉ snapshot.peers.map KernelPeer.publicKey) :
    Judged snapshot pool p .dormant (pool.claim (networks.map Cidr.ip) p.id).2

theorem judged_judge (snapshot : Snapshot) (pool : AddressPool) (p : Peer) :
    Judged snapshot pool p (judge snapshot pool p).1 (judge snapshot pool p).2 := by
  unfold judge
  cases hc : check p with
  | error reason => exact .invalid hc
  | ok networks =>
    simp only
    by_cases he : p.isEnabled = true
    · rw [if_pos he]
      by_cases hk : (snapshot.peer? p.publicKey).isSome = true
      · rw [if_pos hk]
        exact .present hc he (Snapshot.isSome_peer?_iff.1 hk)
      · rw [if_neg hk]
        have habsent := fun h => hk (Snapshot.isSome_peer?_iff.2 h)
        by_cases hg : pool.Grants p.id (networks.map Cidr.ip)
        · have := Judged.pushed hc he habsent hg
          rw [AddressPool.claim_of_grants hg] at this ⊢
          exact this
        · obtain ⟨e, herr⟩ := AddressPool.claim_of_not_grants hg
          rw [herr]
          exact .conflicting hc he habsent hg
    · rw [if_neg he]
      have hd : p.isEnabled = false := by simpa using he
      by_cases hk : (snapshot.peer? p.publicKey).isSome = true
      · rw [if_pos hk]
        exact .removed hc hd (Snapshot.isSome_peer?_iff.1 hk)
      · rw [if_neg hk]
        exact .dormant hc hd fun h => hk (Snapshot.isSome_peer?_iff.2 h)

/-- What a pass makes of a sound enabled peer. -/
theorem Judged.of_enabled {v : Verdict} {pool' : AddressPool} (h : Judged snapshot pool p v pool')
    (hsound : check p = .ok networks) (he : p.isEnabled = true) :
    (p.publicKey ∈ snapshot.peers.map KernelPeer.publicKey ∧ v = .present ∧ pool' = pool) ∨
      p.publicKey ∉ snapshot.peers.map KernelPeer.publicKey ∧
        ((pool.Grants p.id (networks.map Cidr.ip) ∧ v = .pushed (p.changeFor networks) ∧
            pool' = (pool.claim (networks.map Cidr.ip) p.id).2) ∨
          ¬ pool.Grants p.id (networks.map Cidr.ip) ∧ v = .conflicting ∧ pool' = pool) := by
  cases h with
  | invalid faulty =>
    rw [hsound] at faulty
    cases faulty
  | present _ _ inKernel => exact .inl ⟨inKernel, rfl, rfl⟩
  | pushed sound _ absent grants =>
    obtain rfl := Except.ok.inj (hsound.symm.trans sound)
    exact .inr ⟨absent, .inl ⟨grants, rfl, rfl⟩⟩
  | conflicting sound _ absent taken =>
    obtain rfl := Except.ok.inj (hsound.symm.trans sound)
    exact .inr ⟨absent, .inr ⟨taken, rfl, rfl⟩⟩
  | removed _ disabled | dormant _ disabled =>
    rw [he] at disabled
    cases disabled

/-- What a pass makes of a sound disabled peer. -/
theorem Judged.of_disabled {v : Verdict} {pool' : AddressPool} (h : Judged snapshot pool p v pool')
    (hsound : check p = .ok networks) (hd : p.isEnabled = false) :
    pool' = (pool.claim (networks.map Cidr.ip) p.id).2 ∧
      ((p.publicKey ∈ snapshot.peers.map KernelPeer.publicKey ∧ v = .removed (.removal p.publicKey)) ∨
        p.publicKey ∉ snapshot.peers.map KernelPeer.publicKey ∧ v = .dormant) := by
  cases h with
  | invalid faulty =>
    rw [hsound] at faulty
    cases faulty
  | present _ enabled | pushed _ enabled | conflicting _ enabled =>
    rw [hd] at enabled
    cases enabled
  | removed sound _ inKernel =>
    obtain rfl := Except.ok.inj (hsound.symm.trans sound)
    exact ⟨rfl, .inl ⟨inKernel, rfl⟩⟩
  | dormant sound _ absent =>
    obtain rfl := Except.ok.inj (hsound.symm.trans sound)
    exact ⟨rfl, .inr ⟨absent, rfl⟩⟩

theorem Judged.extends {v : Verdict} {pool' : AddressPool} (h : Judged snapshot pool p v pool') :
    pool'.Extends pool := by
  cases h with
  | invalid | present | conflicting => exact .refl pool
  | pushed | removed | dormant => exact pool.extends_claim _ _

theorem Judged.block {v : Verdict} {pool' : AddressPool} (h : Judged snapshot pool p v pool') :
    pool'.block = pool.block := by
  cases h with
  | invalid | present | conflicting => rfl
  | pushed | removed | dormant => exact pool.block_claim _ _

/-! ## All verdicts -/

theorem judgeAll_cons (snapshot : Snapshot) (pool : AddressPool) (p : Peer) (ps : List Peer) :
    judgeAll snapshot pool (p :: ps)
      = ((p, (judge snapshot pool p).1) :: (judgeAll snapshot (judge snapshot pool p).2 ps).1,
        (judgeAll snapshot (judge snapshot pool p).2 ps).2) := rfl

/-- Every peer of the listing gets one verdict, in order. -/
theorem map_fst_judgeAll (snapshot : Snapshot) (pool : AddressPool) (ps : List Peer) :
    (judgeAll snapshot pool ps).1.map Prod.fst = ps := by
  induction ps generalizing pool with
  | nil => rfl
  | cons p ps ih => rw [judgeAll_cons, List.map_cons, ih]

theorem mem_of_mem_judgeAll {ps : List Peer} {v : Verdict}
    (h : (p, v) ∈ (judgeAll snapshot pool ps).1) : p ∈ ps := by
  rw [← map_fst_judgeAll snapshot pool ps]
  exact List.mem_map_of_mem h

theorem exists_verdict (snapshot : Snapshot) (pool : AddressPool) {ps : List Peer} (h : p ∈ ps) :
    ∃ v, (p, v) ∈ (judgeAll snapshot pool ps).1 := by
  rw [← map_fst_judgeAll snapshot pool ps] at h
  obtain ⟨⟨q, v⟩, hm, rfl⟩ := List.mem_map.1 h
  exact ⟨v, hm⟩

theorem extends_judgeAll (snapshot : Snapshot) (pool : AddressPool) (ps : List Peer) :
    (judgeAll snapshot pool ps).2.Extends pool := by
  induction ps generalizing pool with
  | nil => exact .refl pool
  | cons p ps ih =>
    rw [judgeAll_cons]
    exact (ih _).trans (judged_judge snapshot pool p).extends

@[simp] theorem block_judgeAll (snapshot : Snapshot) (pool : AddressPool) (ps : List Peer) :
    (judgeAll snapshot pool ps).2.block = pool.block := by
  induction ps generalizing pool with
  | nil => rfl
  | cons p ps ih => rw [judgeAll_cons, ih, (judged_judge snapshot pool p).block]

/-- Each verdict is on a pool between the first and the last. -/
theorem exists_judged {ps : List Peer} {v : Verdict} (h : (p, v) ∈ (judgeAll snapshot pool ps).1) :
    ∃ before after, before.Extends pool ∧ Judged snapshot before p v after ∧
      (judgeAll snapshot pool ps).2.Extends after := by
  induction ps generalizing pool with
  | nil => simp [judgeAll] at h
  | cons q ps ih =>
    have hq := judged_judge snapshot pool q
    rw [judgeAll_cons] at h ⊢
    rcases List.mem_cons.1 h with he | h
    · obtain ⟨rfl, rfl⟩ := Prod.mk.inj he
      exact ⟨pool, _, .refl pool, hq, extends_judgeAll snapshot _ ps⟩
    · obtain ⟨before, after, hb, hj, ha⟩ := ih h
      exact ⟨before, after, hb.trans hq.extends, hj, ha⟩

/-- The peer `q` claimed the address `a`: its record is sound and declares the address, the kernel
did not have it as an enabled peer, and `pool` has all its addresses reserved for it. -/
structure Claimed (snapshot : Snapshot) (pool : AddressPool) (q : Peer) (a : IpAddress) : Prop where
  sound : ∃ networks, check q = .ok networks ∧ a ∈ networks.map Cidr.ip ∧
    ∀ b ∈ networks.map Cidr.ip, pool.holder? b = some (.peer q.id)
  claims : q.isEnabled = false ∨ q.publicKey ∉ snapshot.peers.map KernelPeer.publicKey

theorem Claimed.extends {pool' : AddressPool} (h : Claimed snapshot pool q a)
    (he : pool'.Extends pool) : Claimed snapshot pool' q a := by
  obtain ⟨networks, hc, ha, hb⟩ := h.sound
  exact ⟨⟨networks, hc, ha, fun b hm => he b _ (hb b hm)⟩, h.claims⟩

/-- A claim adds the addresses of the peer or nothing. -/
theorem holder?_claim_cases (pool : AddressPool) (ips : List IpAddress) (id : Uuid) (a : IpAddress) :
    (pool.claim ips id).2.holder? a = pool.holder? a ∨
      a ∈ ips ∧ ∀ b ∈ ips, (pool.claim ips id).2.holder? b = some (.peer id) := by
  by_cases hg : pool.Grants id ips
  · have hclaim := AddressPool.holder?_claim_of_grants hg
    by_cases ha : a ∈ ips
    · exact .inr ⟨ha, fun b hb => by rw [hclaim, if_pos hb]⟩
    · exact .inl (by rw [hclaim, if_neg ha])
  · exact .inl (by rw [AddressPool.claim_eq_of_not_grants hg])

/-- One verdict reserves nothing, or what the peer claimed. -/
theorem Judged.holder? {v : Verdict} {pool' : AddressPool} (h : Judged snapshot pool p v pool')
    (a : IpAddress) : pool'.holder? a = pool.holder? a ∨ Claimed snapshot pool' p a := by
  cases h with
  | invalid | present | conflicting => exact .inl rfl
  | pushed sound enabled absent =>
    exact (holder?_claim_cases pool _ p.id a).imp_right fun h => ⟨⟨_, sound, h.1, h.2⟩, .inr absent⟩
  | removed sound disabled =>
    exact (holder?_claim_cases pool _ p.id a).imp_right fun h => ⟨⟨_, sound, h.1, h.2⟩, .inl disabled⟩
  | dormant sound disabled =>
    exact (holder?_claim_cases pool _ p.id a).imp_right fun h => ⟨⟨_, sound, h.1, h.2⟩, .inl disabled⟩

/-- What the last pool has reserved, the first has, or a peer of the listing claimed it. -/
theorem holder?_judgeAll (snapshot : Snapshot) (pool : AddressPool) (ps : List Peer) (a : IpAddress) :
    (judgeAll snapshot pool ps).2.holder? a = pool.holder? a ∨
      ∃ q ∈ ps, Claimed snapshot (judgeAll snapshot pool ps).2 q a := by
  induction ps generalizing pool with
  | nil => exact .inl rfl
  | cons p ps ih =>
    rw [judgeAll_cons]
    rcases ih (judge snapshot pool p).2 with h | ⟨q, hq, hc⟩
    · rcases (judged_judge snapshot pool p).holder? a with h' | h'
      · exact .inl (h.trans h')
      · exact .inr ⟨p, List.mem_cons_self, h'.extends (extends_judgeAll snapshot _ ps)⟩
    · exact .inr ⟨q, List.mem_cons_of_mem _ hq, hc⟩

/-! ## Reports and changes -/

theorem mem_idsWhere {select : Verdict → Bool} {verdicts : List (Peer × Verdict)} {id : Uuid} :
    id ∈ idsWhere select verdicts ↔ ∃ p v, (p, v) ∈ verdicts ∧ select v = true ∧ p.id = id := by
  simp [idsWhere, and_assoc]

theorem mem_conflicting {name : String} {verdicts : List (Peer × Verdict)} {id : Uuid} :
    id ∈ (SyncReport.ofVerdicts name verdicts).conflicting ↔
      ∃ p, (p, .conflicting) ∈ verdicts ∧ p.id = id := by
  rw [SyncReport.ofVerdicts, mem_idsWhere]
  simp only [decide_eq_true_eq]
  constructor
  · rintro ⟨p, v, hm, rfl, hid⟩
    exact ⟨p, hm, hid⟩
  · rintro ⟨p, hm, hid⟩
    exact ⟨p, _, hm, rfl, hid⟩

theorem mem_pushed {name : String} {verdicts : List (Peer × Verdict)} {id : Uuid} :
    id ∈ (SyncReport.ofVerdicts name verdicts).pushed ↔
      ∃ p c, (p, .pushed c) ∈ verdicts ∧ p.id = id := by
  rw [SyncReport.ofVerdicts, mem_idsWhere]
  constructor
  · rintro ⟨p, v, hm, hv, hid⟩
    cases v with
    | pushed c => exact ⟨p, c, hm, hid⟩
    | invalid | conflicting | removed | present | dormant => cases hv
  · rintro ⟨p, c, hm, hid⟩
    exact ⟨p, _, hm, rfl, hid⟩

theorem mem_changes {verdicts : List (Peer × Verdict)} {c : PeerChange} :
    c ∈ changes verdicts ↔ ∃ p v, (p, v) ∈ verdicts ∧ v.change? = some c := by
  simp [changes]

theorem changes_cons (p : Peer) (v : Verdict) (verdicts : List (Peer × Verdict)) :
    changes ((p, v) :: verdicts) = v.change?.toList ++ changes verdicts := by
  cases hv : v.change? with
  | none => simp [changes, hv]
  | some c => simp [changes, hv]

/-- A change concerns the key of the peer that it was made for. -/
theorem Judged.publicKey_of_change? {v : Verdict} {pool' : AddressPool} {c : PeerChange}
    (h : Judged snapshot pool p v pool') (hc : v.change? = some c) : c.publicKey = p.publicKey := by
  cases h with
  | invalid | present | conflicting | dormant => cases hc
  | pushed => rw [← Option.some.inj hc]; rfl
  | removed => rw [← Option.some.inj hc]; rfl

/-- The keys that a plan's changes concern are keys of peers of the listing, in its order. -/
theorem sublist_changes (snapshot : Snapshot) (pool : AddressPool) (ps : List Peer) :
    ((changes (judgeAll snapshot pool ps).1).map PeerChange.publicKey).Sublist
      (ps.map Peer.publicKey) := by
  induction ps generalizing pool with
  | nil => exact .slnil
  | cons p ps ih =>
    have hp := judged_judge snapshot pool p
    rw [judgeAll_cons, changes_cons, List.map_cons]
    cases hv : (judge snapshot pool p).1.change? with
    | none => exact (ih _).cons _
    | some c =>
      rw [Option.toList_some, List.singleton_append, List.map_cons, hp.publicKey_of_change? hv]
      exact (ih _).cons_cons _

/-- A change of a plan installs a sound, enabled peer that the kernel does not have, or takes out a
sound, disabled one that it has. -/
theorem spec_change {ps : List Peer} {c : PeerChange}
    (h : c ∈ changes (judgeAll snapshot pool ps).1) :
    ∃ p ∈ ps, ∃ networks, check p = .ok networks ∧
      ((p.isEnabled = true ∧ c = p.changeFor networks ∧
          p.publicKey ∉ snapshot.peers.map KernelPeer.publicKey) ∨
        (p.isEnabled = false ∧ c = .removal p.publicKey ∧
          p.publicKey ∈ snapshot.peers.map KernelPeer.publicKey)) := by
  obtain ⟨p, v, hm, hc⟩ := mem_changes.1 h
  obtain ⟨before, after, -, hj, -⟩ := exists_judged hm
  refine ⟨p, mem_of_mem_judgeAll hm, ?_⟩
  cases hj with
  | invalid | present | conflicting | dormant => cases hc
  | pushed sound enabled absent =>
    exact ⟨_, sound, .inl ⟨enabled, (Option.some.inj hc).symm, absent⟩⟩
  | removed sound disabled inKernel =>
    exact ⟨_, sound, .inr ⟨disabled, (Option.some.inj hc).symm, inKernel⟩⟩

end Pass

end TunnelKeeper
