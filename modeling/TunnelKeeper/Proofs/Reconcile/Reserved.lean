import TunnelKeeper.Proofs.InMemory
import TunnelKeeper.Proofs.Reconcile.Batch

/-!
# What a pass keeps from being handed out

After a pass the pool of a device has reserved the device's own addresses, those that the kernel
routes, and those that stored peers claimed, and nothing else (`Pass.Input.contains_pool`). A peer
that the pass installed has all its addresses reserved. One that the kernel had already, or one that
is disabled, may declare addresses that are not among these: the kernel may route others to it, and a
claim takes all addresses or none. `syncDevice_reserves` says exactly when all of them are
reserved, and `declared_handed_out` shows both cases in which one is not.
-/

namespace TunnelKeeper

namespace AddressPool

variable {p q : AddressPool} {a : IpAddress}

/-- Allocation does not give what is reserved. -/
theorem ne_host_of_contains {block c : Cidr} {holder : Holder} (ha : p.contains a = true)
    (h : p.allocateFor block holder = (.ok c, q)) : c ≠ Cidr.host a := by
  obtain ⟨ip, rfl, -, -, -, hfree⟩ := spec_allocateFor h
  intro he
  rw [show ip = a from congrArg Cidr.ip he, ha] at hfree
  cases hfree

end AddressPool

namespace Pass

variable {snapshot : Snapshot} {pool : AddressPool} {p : Peer} {networks : List Cidr} {a : IpAddress}

/-- The address `a` is taken once a pass by these parts is over: the device has it, the kernel routes
it, or a stored peer claimed it along with all its other addresses. -/
def Taken (block : Cidr) (s : Snapshot) (ps : List Peer) (pool : AddressPool) (a : IpAddress) :
    Prop :=
  block.isOwn a ∨ Routed s.peers a ∨ ∃ q ∈ ps, Claimed s pool q a

namespace Input

variable {i : Input} {block : Cidr}

theorem contains_start
    (hbase : ∀ a, i.base.holder? a = if block.isOwn a then some .device else none) :
    i.start.contains a = true ↔ block.isOwn a ∨ Routed i.snapshot.peers a := by
  have hown : i.base.contains a = true ↔ block.isOwn a := by
    rw [AddressPool.contains, hbase]
    by_cases h : block.isOwn a
    · simp [h]
    · simp [h]
  rw [start, contains_reserveKernel, hown]

/-- A pass reserves what is taken and nothing else. -/
theorem contains_pool
    (hbase : ∀ a, i.base.holder? a = if block.isOwn a then some .device else none) :
    i.pool.contains a = true ↔ Taken block i.snapshot i.peers i.pool a := by
  constructor
  · intro h
    rcases holder?_judgeAll i.snapshot i.start i.peers a with hsame | hclaimed
    · have hstart : i.start.contains a = true := by
        rw [AddressPool.contains, ← hsame]
        exact h
      rcases (contains_start hbase).1 hstart with hown | hrouted
      · exact .inl hown
      · exact .inr (.inl hrouted)
    · exact .inr (.inr hclaimed)
  · rintro (hown | hrouted | ⟨q, -, hq⟩)
    · exact i.pool_extends.contains ((contains_start hbase).2 (.inl hown))
    · exact i.pool_extends.contains ((contains_start hbase).2 (.inr hrouted))
    · obtain ⟨networks, -, ha, hheld⟩ := hq.sound
      exact AddressPool.contains_iff.2 ⟨_, hheld a ha⟩

/-- A sound enabled peer that the kernel did not have holds all its addresses, unless it conflicts. -/
theorem holder?_of_absent (hp : p ∈ i.peers) (hsound : check p = .ok networks)
    (he : p.isEnabled = true) (habsent : p.publicKey ∉ i.snapshot.peers.map KernelPeer.publicKey)
    (hc : (p, Verdict.conflicting) ∉ i.verdicts) (ha : a ∈ networks.map Cidr.ip) :
    i.pool.holder? a = some (.peer p.id) := by
  obtain ⟨v, hm⟩ := exists_verdict hp
  obtain ⟨before, after, -, hj, hlast⟩ := Pass.exists_judged hm
  obtain ⟨inKernel, -⟩ | ⟨-, ⟨grants, -, rfl⟩ | ⟨-, rfl, -⟩⟩ := hj.of_enabled hsound he
  · exact absurd inKernel habsent
  · exact hlast a _ ((AddressPool.holder?_claim_of_grants grants a).trans (if_pos ha))
  · exact absurd hm hc

/-- A sound disabled peer holds all its addresses, or one of them is someone else's. -/
theorem holder?_of_disabled (hp : p ∈ i.peers) (hsound : check p = .ok networks)
    (hd : p.isEnabled = false) :
    (∀ a ∈ networks.map Cidr.ip, i.pool.holder? a = some (.peer p.id)) ∨
      ∃ a ∈ networks.map Cidr.ip, ∃ h, i.pool.holder? a = some h ∧ h ≠ .peer p.id := by
  obtain ⟨v, hm⟩ := exists_verdict hp
  obtain ⟨before, after, -, hj, hlast⟩ := Pass.exists_judged hm
  obtain ⟨hafter, -⟩ := hj.of_disabled hsound hd
  by_cases hg : before.Grants p.id (networks.map Cidr.ip)
  · refine .inl fun a ha => hlast a _ ?_
    rw [hafter]
    exact (AddressPool.holder?_claim_of_grants hg a).trans (if_pos ha)
  · right
    simp only [AddressPool.Grants, not_forall] at hg
    obtain ⟨a, ha, h, hh, hne⟩ := hg
    refine ⟨a, ha, h, hlast a h ?_, hne⟩
    exact hj.extends a h hh

/-- All that a sound peer declares is reserved in exactly three cases, unless it conflicts: the pass
installed the peer, or the peer is disabled and nobody else has any of it, or all of it is taken. -/
theorem reserved_iff
    (hbase : ∀ a, i.base.holder? a = if block.isOwn a then some .device else none)
    (hp : p ∈ i.peers) (hsound : check p = .ok networks)
    (hc : (p, Verdict.conflicting) ∉ i.verdicts) :
    (∀ a ∈ networks.map Cidr.ip, i.pool.contains a = true) ↔
      (p.isEnabled = true ∧ p.publicKey ∉ i.snapshot.peers.map KernelPeer.publicKey) ∨
        (p.isEnabled = false ∧ i.pool.Grants p.id (networks.map Cidr.ip)) ∨
        ∀ a ∈ networks.map Cidr.ip, Taken block i.snapshot i.peers i.pool a := by
  constructor
  · intro h
    exact .inr (.inr fun a ha => (contains_pool hbase).1 (h a ha))
  · rintro (⟨he, habsent⟩ | ⟨hd, hgrants⟩ | htaken) a ha
    · exact AddressPool.contains_iff.2 ⟨_, holder?_of_absent hp hsound he habsent hc ha⟩
    · rcases holder?_of_disabled hp hsound hd with hall | ⟨b, hb, h, hh, hne⟩
      · exact AddressPool.contains_iff.2 ⟨_, hall a ha⟩
      · exact absurd (hgrants b hb h hh) hne
    · exact (contains_pool hbase).2 (htaken a ha)

/-- A sound peer with one address has it reserved, if the kernel routes it to the peer where it has
the peer. -/
theorem contains_of_single {c : Cidr}
    (hbase : ∀ a, i.base.holder? a = if block.isOwn a then some .device else none)
    (hp : p ∈ i.peers) (hsound : check p = .ok [c])
    (hrouted : p.isEnabled = true → p.publicKey ∈ i.snapshot.peers.map KernelPeer.publicKey →
      Routed i.snapshot.peers c.ip) : i.pool.contains c.ip = true := by
  have hmem : c.ip ∈ [c].map Cidr.ip := List.mem_cons_self
  obtain ⟨v, hm⟩ := exists_verdict hp
  obtain ⟨before, after, -, hj, hlast⟩ := Pass.exists_judged hm
  by_cases he : p.isEnabled = true
  · obtain ⟨hin, -⟩ | ⟨-, ⟨grants, -, rfl⟩ | ⟨taken, -, rfl⟩⟩ := hj.of_enabled hsound he
    · exact i.pool_extends.contains ((contains_start hbase).2 (.inr (hrouted he hin)))
    · exact hlast.contains (AddressPool.contains_iff.2
        ⟨_, (AddressPool.holder?_claim_of_grants grants c.ip).trans (if_pos hmem)⟩)
    · -- Its only address is the one that stands in its way.
      simp only [AddressPool.Grants, List.map_cons, List.map_nil, List.mem_singleton,
        forall_eq, not_forall] at taken
      obtain ⟨h, hh, -⟩ := taken
      exact hlast.contains (AddressPool.contains_iff.2 ⟨h, hh⟩)
  · rcases holder?_of_disabled hp hsound (by simpa using he) with hall | ⟨a, ha, h, hh, -⟩
    · exact AddressPool.contains_iff.2 ⟨_, hall c.ip hmem⟩
    · obtain rfl : a = c.ip := List.mem_singleton.1 ha
      exact AddressPool.contains_iff.2 ⟨h, hh⟩

end Input

end Pass

/-! ## A pass as it is called -/

/-- What a pass keeps from being handed out with its pool, where the kernel had the state `s` and the
peers `ps` of the device are stored. -/
structure Reserves (block : Cidr) (s : Snapshot) (ps : List Peer) (report : SyncReport)
    (pool : AddressPool) : Prop where
  /-- All that a valid peer without conflict declares is reserved if and only if the pass installed
  the peer, or it is disabled and nobody else has any of it, or all of it is taken. -/
  declared : ∀ p ∈ ps, p.validate = .ok () → p.id ∉ report.conflicting →
    ∀ ips, p.reservedIps = .ok ips →
      ((∀ a ∈ ips, pool.contains a = true) ↔
        (p.isEnabled = true ∧ p.publicKey ∉ s.peers.map KernelPeer.publicKey) ∨
          (p.isEnabled = false ∧ pool.Grants p.id ips) ∨
          ∀ a ∈ ips, Pass.Taken block s ps pool a)
  /-- As long as an address is reserved, allocation does not give it. -/
  kept : ∀ (later later' : AddressPool) (a : IpAddress) (block' c : Cidr) (holder : Holder),
    later.contains a = true → later.allocateFor block' holder = (.ok c, later') → c ≠ Cidr.host a

namespace Reconciler

variable {κ σ δ : Type} {r : Reconciler κ σ δ} {id : Uuid} {w w' : World κ σ δ} {i : Pass.Input}
  {device : Device} {report : SyncReport}

theorem Completed.reserves {block : Cidr} (h : r.Completed id w i device report w')
    (hblock : i.device.network = .ok block) :
    Reserves block i.snapshot i.peers report i.pool := by
  obtain ⟨block', hblock', hbase⟩ := Device.spec_initialPool h.base
  obtain rfl : block' = block := Except.ok.inj (hblock'.symm.trans hblock)
  constructor
  case declared =>
    intro p hp hvalid hconf ips hips
    unfold Peer.reservedIps at hips
    cases hn : p.allowedNetworks with
    | error e =>
      rw [hn] at hips
      cases hips
    | ok networks =>
      rw [hn] at hips
      obtain rfl : networks.map Cidr.ip = ips := Except.ok.inj hips
      refine Pass.Input.reserved_iff hbase hp (Pass.check_eq_ok_iff.2 ⟨hvalid, hn⟩) fun hm => hconf ?_
      rw [h.report_eq]
      exact Pass.mem_conflicting.2 ⟨p, hm, rfl⟩
  case kept =>
    intro later later' a block' c holder ha halloc
    exact AddressPool.ne_host_of_contains ha halloc

/-- A pass that succeeds registers its device with a pool that keeps what is declared, as far as
`Reserves` says. -/
theorem syncDevice_reserves (h : r.syncDevice id w = (.ok report, w')) :
    ∃ d s page block m pool, r.devices.get w.devices id = .ok d ∧
      (r.gateway.read d.name w.kernel).1 = .ok s ∧
      r.peers.list w.peers (.ofDevice id) = .ok page ∧ d.network = .ok block ∧
      w'.registry[d.id]? = some m ∧ m.pool = some pool ∧
      Reserves block s page.items report pool := by
  obtain ⟨i, device, hc⟩ := syncDevice_ok h
  obtain ⟨page, hlist, hitems⟩ := hc.listed
  obtain ⟨block, hblock, -⟩ := Device.spec_initialPool hc.base
  refine ⟨i.device, i.snapshot, page, block, ⟨device, some i.pool⟩, i.pool, hc.stored, hc.live, hlist,
    hblock, ?_, rfl, ?_⟩
  · rw [hc.registry, hc.device_id]
    exact Std.ExtTreeMap.getElem?_insert_self
  · rw [hitems]
    exact hc.reserves hblock

end Reconciler

/-! ## What is handed out all the same -/

namespace Sample

open Reconciler

/-- A disabled peer that declares two addresses, and an enabled one that declares another than the
kernel routes to it. -/
def split : List Peer := [peer 1 false ["10.0.0.2/32", "10.0.0.3/32"], peer 2 true ["10.0.0.4/32"]]

/-- An unrecorded peer of this kernel has one address of the disabled peer. -/
def splitWorld : World MemoryKernel MemoryPeers MemoryDevices :=
  memoryWorld (interface [kernelPeer 9 [ip 3], kernelPeer 2 [ip 5]]) [device] split

theorem syncDevice_split : ((inMemory .default).syncDevice device.id splitWorld).1
    = .ok ⟨[device.name], [], [], [], [], []⟩ := by decide +kernel

theorem syncDevice_reserves_split :
    ∃ report w', (inMemory .default).syncDevice device.id splitWorld = (.ok report, w') ∧
      ∃ d s page block m pool, (inMemory .default).devices.get splitWorld.devices device.id = .ok d ∧
        ((inMemory .default).gateway.read d.name splitWorld.kernel).1 = .ok s ∧
        (inMemory .default).peers.list splitWorld.peers (.ofDevice device.id) = .ok page ∧
        d.network = .ok block ∧ w'.registry[d.id]? = some m ∧ m.pool = some pool ∧
        Reserves block s page.items report pool :=
  ⟨_, _, Prod.ext syncDevice_split rfl, syncDevice_reserves (Prod.ext syncDevice_split rfl)⟩

/-- Neither peer conflicts, and the next two addresses that the pool gives are declared by them. -/
theorem declared_handed_out :
    ∃ report w' m m' m'', (inMemory .default).syncDevice device.id splitWorld = (.ok report, w') ∧
      report.conflicting = [] ∧ w'.registry[device.id]? = some m ∧
      m.allocate .kernel = (.ok (Cidr.host (ip 2)), m') ∧
      m'.allocate .kernel = (.ok (Cidr.host (ip 4)), m'') ∧
      (∃ p ∈ split, p.isEnabled = false ∧ p.validate = .ok () ∧ p.reservedIps = .ok [ip 2, ip 3]) ∧
      ∃ p ∈ split, p.isEnabled = true ∧ p.validate = .ok () ∧ p.reservedIps = .ok [ip 4] := by
  have hm : ∃ m, ((inMemory .default).syncDevice device.id splitWorld).2.registry[device.id]?
      = some m := by
    rw [← Option.isSome_iff_exists]
    decide +kernel
  obtain ⟨m, hm⟩ := hm
  have hfirst : (((inMemory .default).syncDevice device.id splitWorld).2.registry[device.id]?.map
      fun m => (m.allocate .kernel).1) = some (.ok (Cidr.host (ip 2))) := by decide +kernel
  have hsecond : (((inMemory .default).syncDevice device.id splitWorld).2.registry[device.id]?.map
      fun m => ((m.allocate .kernel).2.allocate .kernel).1) = some (.ok (Cidr.host (ip 4))) := by
    decide +kernel
  rw [hm] at hfirst hsecond
  refine ⟨_, _, m, _, _, Prod.ext syncDevice_split rfl, rfl, hm, Prod.ext (Option.some.inj hfirst) rfl,
    Prod.ext (Option.some.inj hsecond) rfl, ⟨_, List.mem_cons_self, rfl, ?_⟩, _,
    List.mem_cons_of_mem _ List.mem_cons_self, rfl, ?_⟩
  · decide +kernel
  · decide +kernel

end Sample

end TunnelKeeper
