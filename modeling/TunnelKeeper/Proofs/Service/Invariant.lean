import TunnelKeeper.Proofs.Peer.Orderly
import TunnelKeeper.Proofs.Reconcile.Effect
import TunnelKeeper.Proofs.Reconcile.Reserved

/-!
# The invariant of the services

`World.Orderly` is what the services rely on between operations. The stored peers are in order
(`Peer.Orderly`). Where the kernel has a stored peer, it routes the peer's address to it
(`RoutesOwn`). And every registered device has a pool that keeps the device's own addresses and those
of its stored peers (`ManagedDevice.Guards`), whatever the stored device says by now. A pass keeps all
of it (`preserves_syncDevice`), since it plans by the same three sources.

A key that no interface has may be set aside for a peer to come: the keys `unused` belong to no stored
peer and to no peer of the kernel's.
-/

namespace TunnelKeeper

/-! ## The kernel -/

/-- Of the stored peers `ps`, the kernel's peers are routed what they declare, and none of them has a
key of `unused`. -/
structure RoutesOwn (peersOf : String → List KernelPeer) (ps : List Peer) (unused : List Key) :
    Prop where
  own : ∀ name, ∀ k ∈ peersOf name, ∀ p ∈ ps, k.publicKey = p.publicKey →
    ∀ a, p.Declares a → k.allowedIps = [Cidr.host a]
  unused : ∀ name, ∀ k ∈ peersOf name, k.publicKey ∉ unused

/-- The change takes a peer out, or routes to a peer of `ps` what it declares. -/
def PeerChange.Suits (ps : List Peer) (c : PeerChange) : Prop :=
  c.remove = true ∨ ∃ p ∈ ps, c.publicKey = p.publicKey ∧ c.replaceAllowedIps = true ∧
    ∀ a, p.Declares a → c.allowedIps = [Cidr.host a]

namespace RoutesOwn

variable {before after : String → List KernelPeer} {ps ps' : List Peer} {unused unused' : List Key}

theorem of_subset (h : RoutesOwn before ps unused)
    (hsub : ∀ name, ∀ k ∈ after name, k ∈ before name) :
    RoutesOwn after ps unused :=
  ⟨fun name k hk => h.own name k (hsub name k hk), fun name k hk => h.unused name k (hsub name k hk)⟩

/-- Stored peers may change as the invariant of peers allows, and one with an unused key may come. -/
theorem of_like (h : RoutesOwn before ps unused) (hsub : unused' ⊆ unused)
    (hlike : ∀ q ∈ ps', (∃ p ∈ ps, p.Like q) ∨ q.publicKey ∈ unused) :
    RoutesOwn before ps' unused' where
  own := by
    intro name k hk q hq hkey a ha
    rcases hlike q hq with ⟨p, hp, hpq⟩ | hq
    · exact h.own name k hk p hp (hkey.trans hpq.key) a (hpq.declares_iff.1 ha)
    · exact absurd (hkey ▸ hq) (h.unused name k hk)
  unused := fun name k hk hmem => h.unused name k hk (hsub hmem)

/-- Changes that suit the stored peers. -/
theorem of_changes {name : String} {cs : List PeerChange} (h : RoutesOwn before ps unused)
    (hkeys : (ps.map Peer.publicKey).Nodup) (hspare : ∀ p ∈ ps, p.publicKey ∉ unused)
    (hcs : ∀ c ∈ cs, c.Suits ps) (hafter : after name = PeerChange.applyAll cs (before name))
    (hother : ∀ other, other ≠ name → after other = before other) : RoutesOwn after ps unused := by
  have hmem : ∀ other, ∀ k ∈ after other, k ∈ before other ∨ ∃ p ∈ ps, k.publicKey = p.publicKey ∧
      ∀ a, p.Declares a → k.allowedIps = [Cidr.host a] := by
    intro other k hk
    by_cases ho : other = name
    · rw [ho, hafter] at hk
      rcases PeerChange.mem_applyAll hk with hk | ⟨c, hc, hr, old, hold, rfl⟩
      · rw [ho]
        exact .inl hk
      · rcases hcs c hc with hrm | ⟨p, hp, hkey, hreplace, hips⟩
        · rw [hr] at hrm
          cases hrm
        · refine .inr ⟨p, hp, hold.trans hkey, fun a ha => ?_⟩
          show (if c.replaceAllowedIps then c.allowedIps else old.allowedIps ++ c.allowedIps) = _
          rw [if_pos hreplace, hips a ha]
    · rw [hother other ho] at hk
      exact .inl hk
  constructor
  · intro other k hk p hp hkey a ha
    rcases hmem other k hk with hk | ⟨q, hq, hkey', hips⟩
    · exact h.own other k hk p hp hkey a ha
    · obtain rfl := List.inj_on_of_nodup_map hkeys hp hq (hkey.symm.trans hkey')
      exact hips a ha
  · intro other k hk
    rcases hmem other k hk with hk | ⟨q, hq, hkey', -⟩
    · exact h.unused other k hk
    · rw [hkey']
      exact hspare q hq

end RoutesOwn

/-! ## Registered devices -/

/-- The pool has the own addresses of the block reserved for the device, and what the peers of the
device declare reserved for anyone. -/
structure AddressPool.Keeps (pool : AddressPool) (block : Cidr) (id : Uuid) (ps : List Peer) :
    Prop where
  own : ∀ a, block.isOwn a → pool.holder? a = some .device
  declared : ∀ p ∈ ps, p.deviceId = id → ∀ a, p.Declares a → pool.contains a = true

/-- The managed device has a pool that keeps its addresses and those of its peers. -/
def ManagedDevice.Guards (m : ManagedDevice) (ps : List Peer) : Prop :=
  ∃ pool block, m.pool = some pool ∧ m.device.network = .ok block ∧ pool.Keeps block m.device.id ps

theorem AddressPool.Keeps.of_like {pool : AddressPool} {block : Cidr} {id : Uuid} {ps ps' : List Peer}
    (h : pool.Keeps block id ps) (hlike : ∀ q ∈ ps', q.deviceId = id → ∃ p ∈ ps, p.Like q) :
    pool.Keeps block id ps' where
  own := h.own
  declared := by
    intro q hq hdev a ha
    obtain ⟨p, hp, hpq⟩ := hlike q hq hdev
    exact h.declared p hp (hpq.device.symm.trans hdev) a (hpq.declares_iff.1 ha)

namespace AddressPool.Keeps

variable {pool pool' : AddressPool} {block : Cidr} {id : Uuid} {ps : List Peer} {p : Peer}
  {a : IpAddress}

theorem of_extends (h : pool.Keeps block id ps) (he : pool'.Extends pool) :
    pool'.Keeps block id ps :=
  ⟨fun a ha => he a _ (h.own a ha), fun p hp hdev a ha => he.contains (h.declared p hp hdev a ha)⟩

theorem not_own (h : pool.Keeps block id ps) (hfree : pool.contains a = false) :
    ¬ block.isOwn a := by
  intro ha
  have hheld := h.own a ha
  rw [AddressPool.contains_eq_false.1 hfree] at hheld
  cases hheld

theorem not_declared (h : pool.Keeps block id ps) (hfree : pool.contains a = false) :
    ∀ p ∈ ps, p.deviceId = id → ¬ p.Declares a := by
  intro p hp hdev ha
  have hheld := h.declared p hp hdev a ha
  rw [hfree] at hheld
  cases hheld

/-- A new peer of the device has an address that the pool reserved for it. -/
theorem append (h : pool.Keeps block id ps) (ha : p.Declares a) (hheld : pool.contains a = true) :
    pool.Keeps block id (ps ++ [p]) where
  own := h.own
  declared := by
    intro q hq hdev b hb
    rcases List.mem_append.1 hq with hq | hq
    · exact h.declared q hq hdev b hb
    · obtain rfl := List.mem_singleton.1 hq
      rw [hb.eq ha]
      exact hheld

/-- An address that was free is put aside for a new peer of the device. -/
theorem put (h : pool.Keeps block id ps) (hfree : pool.contains a = false) (ha : p.Declares a)
    (holder : Holder) : (pool.put a holder).Keeps block id (ps ++ [p]) :=
  (h.of_extends (AddressPool.extends_put hfree holder)).append ha
    (AddressPool.contains_iff.2 ⟨holder, (AddressPool.holder?_put ..).trans (if_pos rfl)⟩)

/-- What a peer that goes gives back is nobody else's. -/
theorem release (h : pool.Keeps block id ps) (hrows : Peer.Orderly ps) (hp : p ∈ ps)
    (hdev : p.deviceId = id) (ha : p.Declares a) :
    (pool.releaseAllFor p.id [a]).2.Keeps block id (Peer.dropFrom ps p.id) where
  own := by
    intro b hb
    obtain ⟨-, hholder⟩ := AddressPool.spec_releaseAllFor pool p.id [a] b
    rw [hholder, h.own b hb]
    exact if_neg fun hc => by cases hc.2
  declared := by
    intro q hq hqdev b hb
    obtain ⟨hq, hne⟩ := Keyed.mem_dropFrom.1 hq
    have hab : b ≠ a := by
      rintro rfl
      exact hrows.apart q hq p hp hne (hqdev.trans hdev.symm) b hb ha
    obtain ⟨-, hholder⟩ := AddressPool.spec_releaseAllFor pool p.id [a] b
    rw [AddressPool.contains, hholder, if_neg fun hc => hab (List.mem_singleton.1 hc.1)]
    exact h.declared q hq hqdev b hb

end AddressPool.Keeps

theorem ManagedDevice.Guards.of_like {m : ManagedDevice} {ps ps' : List Peer} (h : m.Guards ps)
    (hlike : ∀ q ∈ ps', q.deviceId = m.device.id → ∃ p ∈ ps, p.Like q) : m.Guards ps' := by
  obtain ⟨pool, block, hpool, hblock, hkeeps⟩ := h
  exact ⟨pool, block, hpool, hblock, hkeeps.of_like hlike⟩

/-! ## The whole -/

section World

variable {κ σ δ : Type} {peersOf : κ → String → List KernelPeer} {Holds : σ → List Peer → Prop}
  {ps ps' : List Peer} {unused : List Key} {w w' : World κ σ δ} {s : σ} {m : ManagedDevice}

/-- The invariant (module doc). -/
structure World.Orderly (peersOf : κ → String → List KernelPeer) (Holds : σ → List Peer → Prop)
    (ps : List Peer) (unused : List Key) (w : World κ σ δ) : Prop where
  holds : Holds w.peers ps
  rows : Peer.Orderly ps
  spare : ∀ p ∈ ps, p.publicKey ∉ unused
  kernel : RoutesOwn (peersOf w.kernel) ps unused
  registry : ∀ id (m : ManagedDevice), w.registry[id]? = some m → m.device.id = id ∧ m.Guards ps

namespace World.Orderly

theorem forget (h : w.Orderly peersOf Holds ps unused) : w.Orderly peersOf Holds ps [] :=
  ⟨h.holds, h.rows, fun _ _ => List.not_mem_nil,
    ⟨h.kernel.own, fun _ _ _ => List.not_mem_nil⟩, h.registry⟩

theorem withKernel (h : w.Orderly peersOf Holds ps unused) {k : κ}
    (hk : RoutesOwn (peersOf k) ps unused) :
    ({ w with kernel := k } : World κ σ δ).Orderly peersOf Holds ps unused :=
  ⟨h.holds, h.rows, h.spare, hk, h.registry⟩

theorem withDevices (h : w.Orderly peersOf Holds ps unused) (d : δ) :
    ({ w with devices := d } : World κ σ δ).Orderly peersOf Holds ps unused :=
  ⟨h.holds, h.rows, h.spare, h.kernel, h.registry⟩

theorem register (h : w.Orderly peersOf Holds ps unused) (hm : m.Guards ps) :
    ({ w with registry := w.registry.insert m.device.id m } : World κ σ δ).Orderly peersOf Holds ps
      unused := by
  refine ⟨h.holds, h.rows, h.spare, h.kernel, fun id m' hm' => ?_⟩
  rcases Registry.insert_cases hm' with ⟨rfl, rfl⟩ | ⟨-, hm'⟩
  · exact ⟨rfl, hm⟩
  · exact h.registry id m' hm'

theorem unregister (h : w.Orderly peersOf Holds ps unused) (id : Uuid) :
    ({ w with registry := w.registry.erase id } : World κ σ δ).Orderly peersOf Holds ps unused := by
  exact ⟨h.holds, h.rows, h.spare, h.kernel, fun id' m' hm' =>
    h.registry id' m' (Registry.of_erase hm')⟩

/-- The stored peers change, and one device is registered anew. -/
theorem replace {unused' : List Key} (h : w.Orderly peersOf Holds ps unused) (hs : Holds s ps')
    (hrows : Peer.Orderly ps') (hspare : ∀ p ∈ ps', p.publicKey ∉ unused') (hsub : unused' ⊆ unused)
    (hm : m.Guards ps')
    (hlike : ∀ q ∈ ps', (∃ p ∈ ps, p.Like q) ∨ q.publicKey ∈ unused ∧ q.deviceId = m.device.id) :
    ({ w with peers := s, registry := w.registry.insert m.device.id m } : World κ σ δ).Orderly peersOf
      Holds ps' unused' := by
  refine ⟨hs, hrows, hspare, h.kernel.of_like hsub fun q hq => (hlike q hq).imp_right And.left,
    fun id m' hm' => ?_⟩
  rcases Registry.insert_cases hm' with ⟨rfl, rfl⟩ | ⟨hid, hm'⟩
  · exact ⟨rfl, hm⟩
  · obtain ⟨rfl, hguards⟩ := h.registry id m' hm'
    refine ⟨rfl, hguards.of_like fun q hq hdev => ?_⟩
    rcases hlike q hq with hq | ⟨-, hq⟩
    · exact hq
    · exact absurd (hq.symm.trans hdev) hid

/-- The stored peers change into peers like them. -/
theorem withPeers (h : w.Orderly peersOf Holds ps unused) (hs : Holds s ps')
    (hrows : Peer.Orderly ps') (hlike : ∀ q ∈ ps', ∃ p ∈ ps, p.Like q) :
    ({ w with peers := s } : World κ σ δ).Orderly peersOf Holds ps' unused := by
  refine ⟨hs, hrows, fun q hq => ?_,
    h.kernel.of_like (List.Subset.refl _) fun q hq => .inl (hlike q hq), fun id m hm => ?_⟩
  · obtain ⟨p, hp, hpq⟩ := hlike q hq
    rw [hpq.key]
    exact h.spare p hp
  · obtain ⟨hid, hguards⟩ := h.registry id m hm
    exact ⟨hid, hguards.of_like fun q hq _ => hlike q hq⟩

end World.Orderly

end World

end TunnelKeeper
