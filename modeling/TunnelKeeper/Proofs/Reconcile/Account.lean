import TunnelKeeper.Proofs.Reconcile.Reserved
import TunnelKeeper.Proofs.Store.Listing

/-!
# What a pass accounts for

A pass judges the peers of its listing one after another, each on what the earlier ones left of the
pool (`exists_position`). A peer that it installs has its addresses to itself. One that it leaves out
for a conflict declares an address that is the device's, that the kernel routes, or that an earlier
peer claimed. Where the listing has no identifier twice, its peers are known by their verdicts
(`Input.verdict_unique`), so that each is reported once at most, and the batch that is sent can be
read off the report. `Account` puts this together, and `syncDevice_accounts` proves it of a pass that
succeeds.
-/

namespace TunnelKeeper

/-- The record has no faults, and its addresses can be read. -/
def Peer.Sound (p : Peer) : Prop := p.validate = .ok () ∧ ∃ ips, p.reservedIps = .ok ips

/-- The addresses of the record can be read, and `a` is one of them. -/
def Peer.Lists (p : Peer) (a : IpAddress) : Prop := ∃ ips, p.reservedIps = .ok ips ∧ a ∈ ips

/-- The number grows by one with every call that changes peers, whatever comes of it, and not when an
interface is read. -/
structure Gateway.Counts {κ : Type} (g : Gateway κ) (count : κ → Nat) : Prop where
  read : ∀ name k, count (g.read name k).2 = count k
  configure : ∀ name changes k, count (g.configure name changes k).2 = count k + 1

namespace MemoryKernel

/-- The number of calls that were to change peers. -/
def changeCalls (k : MemoryKernel) : Nat := k.calls.countP fun c => c.request.operation = .configure

theorem counts : Gateway.Counts gateway changeCalls where
  read name k := by
    rw [changeCalls, gateway, calls_call, List.countP_append]
    rfl
  configure name changes k := by
    rw [changeCalls, gateway, calls_call, List.countP_append]
    rfl

end MemoryKernel

namespace Pass

variable {snapshot : Snapshot} {pool : AddressPool} {p q : Peer} {ps : List Peer} {v v' : Verdict}
  {networks : List Cidr} {a : IpAddress}

theorem reservedIps_of_check (h : check p = .ok networks) :
    p.reservedIps = .ok (networks.map Cidr.ip) := by
  rw [Peer.reservedIps, (check_eq_ok_iff.1 h).2]
  rfl

theorem sound_iff : p.Sound ↔ ∃ networks, check p = .ok networks := by
  constructor
  · rintro ⟨hvalid, ips, hips⟩
    rw [Peer.reservedIps] at hips
    cases hn : p.allowedNetworks with
    | error e =>
      rw [hn] at hips
      cases hips
    | ok networks => exact ⟨networks, check_eq_ok_iff.2 ⟨hvalid, hn⟩⟩
  · rintro ⟨networks, h⟩
    exact ⟨(check_eq_ok_iff.1 h).1, _, reservedIps_of_check h⟩

theorem not_sound_of_check {reason : String} (h : check p = .error reason) : ¬ p.Sound := by
  rw [sound_iff]
  rintro ⟨networks, h'⟩
  cases h.symm.trans h'

theorem lists_iff (h : check p = .ok networks) : p.Lists a ↔ a ∈ networks.map Cidr.ip := by
  rw [Peer.Lists, reservedIps_of_check h]
  simp

/-- A kernel peer is reserved for a stored one only by its key. -/
theorem exists_of_holderOf {stored : List Peer} {k : KernelPeer} {id : Uuid}
    (h : holderOf stored k = .peer id) : ∃ q ∈ stored, q.publicKey = k.publicKey ∧ q.id = id := by
  unfold holderOf owner? at h
  rw [List.findRev?_eq_findRev?TR, List.findRev?TR] at h
  cases hf : stored.reverse.find? fun q => q.publicKey = k.publicKey with
  | none =>
    rw [hf] at h
    cases h
  | some q =>
    rw [hf] at h
    exact ⟨q, List.mem_reverse.1 (List.mem_of_find?_eq_some hf), by simpa using List.find?_some hf,
      Holder.peer.inj h⟩

/-! ## The place of a verdict -/

/-- Each peer is judged on the pool that the earlier ones left. -/
theorem exists_position (h : (p, v) ∈ (judgeAll snapshot pool ps).1) :
    ∃ earlier later after, ps = earlier ++ p :: later ∧
      Judged snapshot (judgeAll snapshot pool earlier).2 p v after ∧
      (judgeAll snapshot pool ps).2.Extends after := by
  induction ps generalizing pool with
  | nil => simp [judgeAll] at h
  | cons q ps ih =>
    rw [judgeAll_cons] at h ⊢
    rcases List.mem_cons.1 h with he | h
    · obtain ⟨rfl, rfl⟩ := Prod.mk.inj he
      exact ⟨[], ps, _, rfl, judged_judge snapshot pool p, extends_judgeAll snapshot _ ps⟩
    · obtain ⟨earlier, later, after, rfl, hj, hlast⟩ := ih h
      exact ⟨q :: earlier, later, after, rfl, hj, hlast⟩

/-! ## Identifiers by verdict -/

/-- Two choices of verdicts that exclude each other give what either of them gives. -/
theorem idsWhere_append_perm {f g : Verdict → Bool} (hfg : ∀ v, f v = true → g v = false)
    (verdicts : List (Peer × Verdict)) :
    (idsWhere f verdicts ++ idsWhere g verdicts).Perm (idsWhere (fun v => f v || g v) verdicts) := by
  induction verdicts with
  | nil => exact .nil
  | cons e verdicts ih =>
    have hcons : ∀ h : Verdict → Bool, idsWhere h (e :: verdicts)
        = if h e.2 = true then e.1.id :: idsWhere h verdicts else idsWhere h verdicts := by
      intro h
      by_cases hv : h e.2 = true
      · simp [idsWhere, hv]
      · simp [idsWhere, hv]
    rw [hcons, hcons, hcons]
    by_cases hf : f e.2 = true
    · simp only [hf, hfg e.2 hf, Bool.or_false, if_true]
      exact ih.cons _
    · by_cases hg : g e.2 = true
      · simp only [hf, hg, Bool.or_true, if_true]
        exact List.perm_middle.trans (ih.cons _)
      · simp only [hf, hg, Bool.or_self]
        exact ih

theorem map_fst_invalid (verdicts : List (Peer × Verdict)) :
    (invalid verdicts).map Prod.fst = idsWhere (fun v => v.reason?.isSome) verdicts := by
  induction verdicts with
  | nil => rfl
  | cons e verdicts ih =>
    rw [invalid_cons, List.map_append, ih]
    cases hv : e.2.reason? with
    | none => simp [idsWhere, hv]
    | some reason => simp [idsWhere, hv]

end Pass

/-- The verdict is one that a report lists the peer for. -/
def Verdict.isReported (v : Verdict) : Bool :=
  v.isPushed || v.isRemoved || v.reason?.isSome || (v = .conflicting : Bool)

/-- The peers that a report lists, by what became of them. -/
def SyncReport.listed (r : SyncReport) : List Uuid :=
  r.pushed ++ r.removed ++ r.invalid.map Prod.fst ++ r.conflicting

namespace Pass

theorem listed_ofVerdicts (name : String) (verdicts : List (Peer × Verdict)) :
    (SyncReport.ofVerdicts name verdicts).listed.Perm (idsWhere Verdict.isReported verdicts) := by
  rw [SyncReport.listed, SyncReport.ofVerdicts, map_fst_invalid]
  have hremoved := idsWhere_append_perm (f := Verdict.isPushed) (g := Verdict.isRemoved)
    (fun v h => by cases v <;> first | rfl | cases h) verdicts
  have hinvalid := idsWhere_append_perm (f := fun v => v.isPushed || v.isRemoved)
    (g := fun v => v.reason?.isSome) (fun v h => by cases v <;> first | rfl | cases h) verdicts
  have hconflicting := idsWhere_append_perm
    (f := fun v => v.isPushed || v.isRemoved || v.reason?.isSome) (g := fun v => v = .conflicting)
    (fun v h => by cases v <;> first | rfl | cases h) verdicts
  exact (((hremoved.append_right _).trans hinvalid).append_right _).trans hconflicting

/-- A peer goes without mention if there is nothing to do about it. -/
theorem Judged.not_reported_iff {snapshot : Snapshot} {pool pool' : AddressPool} {p : Peer}
    {v : Verdict} (hj : Judged snapshot pool p v pool') : v.isReported = false ↔
      p.Sound ∧ ((p.isEnabled = true ∧ p.publicKey ∈ snapshot.peers.map KernelPeer.publicKey) ∨
        (p.isEnabled = false ∧ p.publicKey ∉ snapshot.peers.map KernelPeer.publicKey)) := by
  cases hj with
  | invalid faulty =>
    have hunsound := not_sound_of_check faulty
    simp [Verdict.isReported, Verdict.reason?, hunsound]
  | present sound enabled inKernel =>
    have hsound := sound_iff.2 ⟨_, sound⟩
    exact iff_of_true rfl ⟨hsound, .inl ⟨enabled, inKernel⟩⟩
  | dormant sound disabled absent =>
    have hsound := sound_iff.2 ⟨_, sound⟩
    exact iff_of_true rfl ⟨hsound, .inr ⟨disabled, absent⟩⟩
  | pushed _ enabled absent | conflicting _ enabled absent =>
    simp [Verdict.isReported, Verdict.isPushed, enabled, absent]
  | removed _ disabled inKernel =>
    simp [Verdict.isReported, Verdict.isRemoved, disabled, inKernel]

namespace Input

variable {i : Input} {p q : Peer} {v v' : Verdict} {block : Cidr} {a : IpAddress}
  {networks : List Cidr} {c : PeerChange} {name : String}

/-! ## One verdict a peer -/

/-- No two peers of the listing have one identifier. -/
def Identified (i : Input) : Prop := (i.peers.map Peer.id).Nodup

theorem map_id_verdicts (i : Input) : i.verdicts.map (fun e => e.1.id) = i.peers.map Peer.id := by
  have hfst : i.verdicts.map Prod.fst = i.peers := map_fst_judgeAll _ _ _
  rw [← hfst, List.map_map]
  rfl

theorem Identified.verdict_unique (hn : i.Identified) (h : (p, v) ∈ i.verdicts)
    (h' : (q, v') ∈ i.verdicts) (hid : p.id = q.id) : p = q ∧ v = v' := by
  have hn' : (i.verdicts.map fun e => e.1.id).Nodup := by
    rw [map_id_verdicts]
    exact hn
  exact Prod.mk.inj (List.inj_on_of_nodup_map hn' h h' hid)

/-- The identifier of a peer is listed for its own verdict. -/
theorem Identified.mem_idsWhere (hn : i.Identified) (h : (p, v) ∈ i.verdicts)
    {select : Verdict → Bool} : p.id ∈ idsWhere select i.verdicts ↔ select v = true := by
  rw [Pass.mem_idsWhere]
  constructor
  · rintro ⟨q, v', h', hs, hid⟩
    rwa [(hn.verdict_unique h h' hid.symm).2]
  · exact fun hs => ⟨p, v, h, hs, rfl⟩

theorem Identified.nodup_idsWhere (hn : i.Identified) (select : Verdict → Bool) :
    (idsWhere select i.verdicts).Nodup := by
  have hsub : (idsWhere select i.verdicts).Sublist (i.verdicts.map fun e => e.1.id) :=
    List.filter_sublist.map _
  rw [map_id_verdicts] at hsub
  exact hsub.nodup hn

/-! ## Addresses -/

/-- Nobody else has an address of a peer that a pass installs. -/
theorem Identified.free_of_pushed (hn : i.Identified)
    (hbase : ∀ a, i.base.holder? a = if block.isOwn a then some .device else none)
    (h : (p, .pushed c) ∈ i.verdicts) (hsound : check p = .ok networks)
    (ha : a ∈ networks.map Cidr.ip) :
    ¬ block.isOwn a ∧ ¬ Routed i.snapshot.peers a ∧ i.pool.holder? a = some (.peer p.id) := by
  obtain ⟨before, after, hstart, hj, hlast⟩ := Pass.exists_judged h
  cases hj with
  | pushed sound enabled absent grants =>
    obtain rfl := Except.ok.inj (hsound.symm.trans sound)
    have hgrants := grants.anti (hstart.trans i.start_extends)
    have hheld : i.start.holder? a = none ∨ i.start.holder? a = some (.peer p.id) := by
      cases hh : i.start.holder? a with
      | none => exact .inl rfl
      | some h => exact .inr (by rw [grants.anti hstart a ha h hh])
    have hown : ¬ block.isOwn a := by
      intro hown
      cases hgrants a ha .device (by rw [hbase, if_pos hown])
    refine ⟨hown, fun hrouted => ?_,
      hlast a _ ((AddressPool.holder?_claim_of_grants grants a).trans (if_pos ha))⟩
    -- The kernel would have the address reserved for the peer, so it would have the peer.
    have hbase' : i.base.holder? a = none := by rw [hbase, if_neg hown]
    rcases holder?_reserveKernel i.peers i.base i.snapshot.peers a with hsame | ⟨k, hk, -, hk'⟩
    · have hin : i.start.contains a = true := (contains_start hbase).2 (.inr hrouted)
      rw [AddressPool.contains, start, hsame, hbase'] at hin
      cases hin
    · have hmine : holderOf i.peers k = .peer p.id := grants.anti hstart a ha _ hk'
      obtain ⟨q, hq, hkey, hid⟩ := exists_of_holderOf hmine
      obtain rfl := List.inj_on_of_nodup_map hn hq (mem_of_mem_judgeAll h) hid
      exact absent (List.mem_map.2 ⟨k, hk, hkey.symm⟩)

/-- An address of a conflicting peer is the device's, routed by the kernel, or claimed by a peer that
was judged before. -/
theorem taken_of_conflicting
    (hbase : ∀ a, i.base.holder? a = if block.isOwn a then some .device else none)
    (h : (p, .conflicting) ∈ i.verdicts) :
    ∃ earlier later a, i.peers = earlier ++ p :: later ∧ p.Lists a ∧
      Taken block i.snapshot earlier i.pool a := by
  obtain ⟨earlier, later, after, hps, hj, hlast⟩ := exists_position h
  cases hj with
  | conflicting sound enabled absent taken =>
    simp only [AddressPool.Grants, not_forall] at taken
    obtain ⟨a, ha, holder, hheld, -⟩ := taken
    refine ⟨earlier, later, a, hps, (lists_iff sound).2 ha, ?_⟩
    rcases holder?_judgeAll i.snapshot i.start earlier a with hsame | ⟨q, hq, hclaimed⟩
    · have hin : i.start.contains a = true :=
        AddressPool.contains_iff.2 ⟨holder, by rw [← hsame]; exact hheld⟩
      rcases (contains_start hbase).1 hin with hown | hrouted
      · exact .inl hown
      · exact .inr (.inl hrouted)
    · exact .inr (.inr ⟨q, hq, hclaimed.extends hlast⟩)

end Input

end Pass

/-- The change that is sent for a peer, going by the report. -/
def SyncReport.change? (report : SyncReport) (p : Peer) : Option PeerChange :=
  if p.id ∈ report.pushed then p.toChange.toOption
  else if p.id ∈ report.removed then some (.removal p.publicKey)
  else none

namespace Pass.Input

variable {i : Input} {p q : Peer} {name : String}

/-- What is sent can be read off the report. -/
theorem Identified.changes_eq (hn : i.Identified) :
    i.changes = i.peers.filterMap (SyncReport.ofVerdicts name i.verdicts).change? := by
  have hfst : i.verdicts.map Prod.fst = i.peers := map_fst_judgeAll _ _ _
  rw [← hfst, List.filterMap_map]
  refine List.filterMap_congr fun ⟨p, v⟩ hm => ?_
  have hpushed : p.id ∈ idsWhere Verdict.isPushed i.verdicts ↔ v.isPushed = true :=
    hn.mem_idsWhere hm
  have hremoved : p.id ∈ idsWhere Verdict.isRemoved i.verdicts ↔ v.isRemoved = true :=
    hn.mem_idsWhere hm
  obtain ⟨-, before, after, hj⟩ := exists_judged hm
  simp only [Function.comp_apply, SyncReport.change?, SyncReport.ofVerdicts, hpushed, hremoved]
  cases hj with
  | invalid | present | conflicting | dormant => rfl
  | pushed sound =>
    rw [Peer.toChange, (check_eq_ok_iff.1 sound).2]
    rfl
  | removed => rfl

end Pass.Input

/-! ## A pass as it is called -/

/-- What a pass by the live state `s` and the peers `ps` accounts for, where it ended with `pool` and
sent `changes`. -/
structure Pass.Account (block : Cidr) (s : Snapshot) (ps : List Peer) (report : SyncReport)
    (pool : AddressPool) (changes : List PeerChange) : Prop where
  /-- No address of a pushed peer is the device's or routed by the kernel. -/
  free : ∀ p ∈ ps, p.id ∈ report.pushed → ∀ a, p.Lists a →
    ¬ block.isOwn a ∧ ¬ Pass.Routed s.peers a
  /-- Two pushed peers have no address in common. -/
  apart : ∀ p ∈ ps, ∀ q ∈ ps, p.id ∈ report.pushed → q.id ∈ report.pushed → p ≠ q → ∀ a,
    p.Lists a → ¬ q.Lists a
  /-- A conflicting peer declares an address that is the device's, routed by the kernel, or claimed by
  a peer before it in the listing. -/
  justified : ∀ p ∈ ps, p.id ∈ report.conflicting → ∃ earlier later a,
    ps = earlier ++ p :: later ∧ p.Lists a ∧ Pass.Taken block s earlier pool a
  /-- The report lists peers of the listing, and none of them twice. -/
  once : report.listed.Nodup ∧ ∀ id ∈ report.listed, id ∈ ps.map Peer.id
  /-- The peers that it does not list are the sound ones with nothing to do. -/
  unlisted : ∀ p ∈ ps, p.id ∉ report.listed ↔
    p.Sound ∧ ((p.isEnabled = true ∧ p.publicKey ∈ s.peers.map KernelPeer.publicKey) ∨
      (p.isEnabled = false ∧ p.publicKey ∉ s.peers.map KernelPeer.publicKey))
  /-- The changes are those of the pushed and the removed peers, in the order of the listing. -/
  batch : changes = ps.filterMap report.change?

namespace Reconciler

variable {κ σ δ : Type} {r : Reconciler κ σ δ} {id : Uuid} {w w' : World κ σ δ} {i : Pass.Input}
  {device : Device} {report : SyncReport}

theorem Sent.count {g : Gateway κ} {count : κ → Nat} (hg : g.Counts count) {name : String}
    {changes : List PeerChange} {k k' : κ} (h : Sent g name changes k k') :
    count k' = count k + if changes = [] then 0 else 1 := by
  rcases h with ⟨hnone, rfl⟩ | ⟨hsome, hsent⟩
  · rw [if_pos hnone, Nat.add_zero]
  · rw [if_neg hsome, ← hg.configure name changes k, hsent]

theorem Completed.accounts {block : Cidr} (h : r.Completed id w i device report w')
    (hblock : i.device.network = .ok block) (hn : i.Identified) :
    Pass.Account block i.snapshot i.peers report i.pool i.changes := by
  obtain ⟨block', hblock', hbase⟩ := Device.spec_initialPool h.base
  obtain rfl : block' = block := Except.ok.inj (hblock'.symm.trans hblock)
  have hpushed : ∀ p ∈ i.peers, p.id ∈ report.pushed → ∀ a, p.Lists a →
      ¬ block'.isOwn a ∧ ¬ Pass.Routed i.snapshot.peers a ∧
        i.pool.holder? a = some (.peer p.id) := by
    intro p hp hreport a ha
    rw [h.report_eq] at hreport
    obtain ⟨q, c, hm, hid⟩ := Pass.mem_pushed.1 hreport
    obtain rfl := List.inj_on_of_nodup_map hn (Pass.mem_of_mem_judgeAll hm) hp hid
    obtain ⟨-, before, after, hj⟩ := Pass.Input.exists_judged hm
    cases hj with
    | pushed sound => exact hn.free_of_pushed hbase hm sound ((Pass.lists_iff sound).1 ha)
  have hlisted := Pass.listed_ofVerdicts i.device.name i.verdicts
  rw [← h.report_eq] at hlisted
  constructor
  case free =>
    intro p hp hreport a ha
    obtain ⟨hown, hrouted, -⟩ := hpushed p hp hreport a ha
    exact ⟨hown, hrouted⟩
  case apart =>
    intro p hp q hq hp' hq' hne a ha ha'
    have hsame := (hpushed p hp hp' a ha).2.2.symm.trans (hpushed q hq hq' a ha').2.2
    exact hne (List.inj_on_of_nodup_map hn hp hq (Holder.peer.inj (Option.some.inj hsame)))
  case justified =>
    intro p hp hreport
    rw [h.report_eq] at hreport
    obtain ⟨q, hm, hid⟩ := Pass.mem_conflicting.1 hreport
    obtain rfl := List.inj_on_of_nodup_map hn (Pass.mem_of_mem_judgeAll hm) hp hid
    exact Pass.Input.taken_of_conflicting hbase hm
  case once =>
    refine ⟨hlisted.nodup_iff.2 (hn.nodup_idsWhere _), fun id hid => ?_⟩
    obtain ⟨p, v, hm, -, rfl⟩ := Pass.mem_idsWhere.1 (hlisted.mem_iff.1 hid)
    exact List.mem_map_of_mem (Pass.mem_of_mem_judgeAll hm)
  case unlisted =>
    intro p hp
    obtain ⟨v, hm⟩ := Pass.Input.exists_verdict hp
    obtain ⟨-, before, after, hj⟩ := Pass.Input.exists_judged hm
    rw [hlisted.mem_iff, hn.mem_idsWhere hm, Bool.not_eq_true]
    exact hj.not_reported_iff
  case batch =>
    rw [h.report_eq]
    exact hn.changes_eq

/-- A pass that succeeds, over a listing without an identifier twice: it accounts for the peers in
the order of their names, and sends its batch in one call, or makes no call where the batch is empty. -/
theorem syncDevice_accounts {rows : σ → List PeerRow} (hs : r.peers.ListsRows rows)
    (hn : ∀ page, r.peers.list w.peers (.ofDevice id) = .ok page → (page.items.map Peer.id).Nodup)
    (h : r.syncDevice id w = (.ok report, w')) :
    ∃ d s page block m pool changes, r.devices.get w.devices id = .ok d ∧
      (r.gateway.read d.name w.kernel).1 = .ok s ∧
      r.peers.list w.peers (.ofDevice id) = .ok page ∧ d.network = .ok block ∧
      w'.registry[d.id]? = some m ∧ m.pool = some pool ∧
      Peer.Arranged page.items ∧
      Pass.Account block s page.items report pool changes ∧
      Sent r.gateway d.name changes (r.gateway.read d.name w.kernel).2 w'.kernel ∧
      ∀ count, r.gateway.Counts count →
        count w'.kernel = count w.kernel + if changes = [] then 0 else 1 := by
  obtain ⟨i, device, hc⟩ := syncDevice_ok h
  obtain ⟨page, hlist, hitems⟩ := hc.listed
  obtain ⟨block, hblock, -⟩ := Device.spec_initialPool hc.base
  have hident : i.Identified := by
    rw [Pass.Input.Identified, ← hitems]
    exact hn page hlist
  refine ⟨i.device, i.snapshot, page, block, ⟨device, some i.pool⟩, i.pool, i.changes, hc.stored,
    hc.live, hlist, hblock, ?_, rfl, PeerRow.arranged_of_select (hs _ _ _ hlist), ?_, hc.sent,
    fun count hg => ?_⟩
  · rw [hc.registry, hc.device_id]
    exact Std.ExtTreeMap.getElem?_insert_self
  · rw [hitems]
    exact hc.accounts hblock hident
  · rw [hc.sent.count hg, hg.read]

end Reconciler

/-! ## A listing with most verdicts -/

namespace Sample

open Reconciler

/-- The first peer is installed, and the second has its address. The third is disabled, the fourth is
in the kernel already, and the fifth is faulty. -/
def mixed : List Peer :=
  [peer 1 true ["10.0.0.2/32"], peer 2 true ["10.0.0.8/32", "10.0.0.2/32"],
    peer 3 false ["10.0.0.3/32"], peer 4 true ["10.0.0.4/32"], peer 5 true ["everything"]]

def mixedWorld : World MemoryKernel MemoryPeers MemoryDevices :=
  memoryWorld (interface [kernelPeer 3 [ip 3], kernelPeer 4 [ip 4]]) [device] mixed

def mixedReport : SyncReport :=
  ⟨[device.name], [], [uuid 1], [uuid 3],
    [(uuid 5, (PeerError.invalidAllowedIp "everything").message)], [uuid 2]⟩

theorem syncDevice_accounts_mixed :
    ∃ report w', (inMemory .default).syncDevice device.id mixedWorld = (.ok report, w') ∧
      report.pushed = [uuid 1] ∧ report.removed = [uuid 3] ∧
      report.invalid.map Prod.fst = [uuid 5] ∧ report.conflicting = [uuid 2] ∧
      ∃ d s page block m pool changes,
        (inMemory .default).devices.get mixedWorld.devices device.id = .ok d ∧
        ((inMemory .default).gateway.read d.name mixedWorld.kernel).1 = .ok s ∧
        (inMemory .default).peers.list mixedWorld.peers (.ofDevice device.id) = .ok page ∧
        d.network = .ok block ∧ w'.registry[d.id]? = some m ∧ m.pool = some pool ∧
        Peer.Arranged page.items ∧ Pass.Account block s page.items report pool changes ∧
        Sent (inMemory .default).gateway d.name changes
          ((inMemory .default).gateway.read d.name mixedWorld.kernel).2 w'.kernel ∧
        w'.kernel.changeCalls = mixedWorld.kernel.changeCalls + if changes = [] then 0 else 1 := by
  have hrun : ((inMemory .default).syncDevice device.id mixedWorld).1 = .ok mixedReport := by
    decide +kernel
  have hsync := Attempt.run_eq hrun
  obtain ⟨d, s, page, block, m, pool, changes, hd, hs, hl, hb, hm, hp, ha, hacc, hsent, hcount⟩ :=
    syncDevice_accounts MemoryPeers.listsRows
      (fun page hp => MemoryPeers.faithful.nodup_listing (holds_memoryWorld (by decide)) hp) hsync
  exact ⟨mixedReport, _, hsync, rfl, rfl, rfl, rfl, d, s, page, block, m, pool, changes, hd, hs, hl,
    hb, hm, hp, ha, hacc, hsent, hcount _ MemoryKernel.counts⟩

end Sample

end TunnelKeeper
