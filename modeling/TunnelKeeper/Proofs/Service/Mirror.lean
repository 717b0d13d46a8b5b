import TunnelKeeper.Proofs.Peer.Orderly
import TunnelKeeper.Proofs.Reconcile.Convergence
import TunnelKeeper.Service.Peers

/-!
# What the kernel and the pool have of stored peers

`Peer.Mirrors p k` says that the kernel's peer `k` is as the row of `p` says, and `Mirrored ps ks` that
the peers `ks` are those of the enabled peers of `ps`, one for each. `AddressPool.Accounts` says the
same of a pool: what it has reserved for peers is what the stored peers declare.

A call makes one stored peer give way to another or to none (`Peer.Swapped`). So of the kernel's peers
only the one with that key matters, and each kind of change has its lemma (`Mirrored.install`,
`Mirrored.update`, `Mirrored.take`, `Mirrored.leave`).
-/

namespace TunnelKeeper

/-! ## One peer -/

/-- The kernel's peer `k` has the preshared key of `p`, none if that is all zeros, and its keepalive in
whole seconds. -/
structure Peer.Settled (p : Peer) (k : KernelPeer) : Prop where
  presharedKey : k.presharedKey = p.presharedKey.filter fun psk => !psk.isZero
  keepalive : k.keepalive.whole = p.keepalive.whole

/-- The kernel's peer `k` is what the row of `p` says. -/
structure Peer.Mirrors (p : Peer) (k : KernelPeer) : Prop where
  key : k.publicKey = p.publicKey
  networks : p.allowedNetworks = .ok k.allowedIps
  settled : p.Settled k

namespace Peer

variable {p q : Peer} {k : KernelPeer} {networks : List Cidr}

theorem settled_stored : p.stored.Settled k ↔ p.Settled k :=
  ⟨fun h => ⟨h.presharedKey, h.keepalive⟩, fun h => ⟨h.presharedKey, h.keepalive⟩⟩

theorem settled_installed (p : Peer) (networks : List Cidr) :
    p.Settled (p.changeFor networks).installed := by
  obtain ⟨-, hkeepalive, hpsk⟩ := p.installed_changeFor networks
  exact ⟨hpsk, congrArg Duration.whole hkeepalive⟩

theorem mirrors_installed (hnet : p.allowedNetworks = .ok networks) :
    p.Mirrors (p.changeFor networks).installed :=
  ⟨rfl, hnet, p.settled_installed networks⟩

/-- An update brings what mirrored the old row in line with the new one. A preshared key that the new
row lacks is cleared only where the old one had one, as otherwise the kernel has none. -/
theorem Mirrors.update (h : p.Mirrors k) (hlike : p.Like q)
    (hnet : p.allowedNetworks = .ok networks) :
    q.Mirrors ((q.updateChange p.stored networks).applyTo k) where
  key := h.key.trans hlike.key.symm
  networks := by
    rw [allowedNetworks, hlike.ips]
    exact hnet
  settled := by
    refine ⟨?_, rfl⟩
    show (q.updateChange p.stored networks).presharedKeyAfter k.presharedKey = _
    rw [h.settled.presharedKey]
    unfold PeerChange.presharedKeyAfter
    cases hq : q.presharedKey with
    | some psk =>
      by_cases hz : psk.isZero = true
      · simp [updateChange, hq, hz, Option.filter]
      · simp [updateChange, hq, hz, Option.filter]
    | none =>
      cases hp : p.presharedKey with
      | none => simp [updateChange, changeFor, hq, hp]
      | some psk =>
        have hzero : Key.zero.isZero = true := by decide
        simp [updateChange, hq, hp, hzero]

end Peer

/-! ## One peer gives way to another -/

/-- Of the stored peers `ps`, that with the key gives way to `new`. -/
structure Peer.Swapped (ps ps' : List Peer) (key : Key) (new : Option Peer) : Prop where
  mem : ∀ r, r ∈ ps' ↔ (r ∈ ps ∧ r.publicKey ≠ key) ∨ new = some r
  key : ∀ q, new = some q → q.publicKey = key

namespace Peer

variable {ps : List Peer} {p q : Peer}

theorem swapped_append (hkey : q.publicKey ∉ ps.map Peer.publicKey) :
    Swapped ps (ps ++ [q]) q.publicKey (some q) where
  mem := by
    intro r
    have hne : r ∈ ps → r.publicKey ≠ q.publicKey := fun hr he =>
      hkey (he ▸ List.mem_map_of_mem hr)
    rw [List.mem_append, List.mem_singleton, Option.some.injEq, eq_comm (a := r)]
    exact or_congr_left ⟨fun hr => ⟨hr, hne hr⟩, And.left⟩
  key := fun r hr => by rw [Option.some.inj hr]

section Stored

variable (hids : (ps.map Peer.id).Nodup) (hkeys : (ps.map Peer.publicKey).Nodup) (hp : p ∈ ps)
include hids hkeys hp

/-- Of peers with distinct identifiers and keys, the same one is known by either. -/
theorem id_eq_iff_key_eq (hq : q ∈ ps) : q.id = p.id ↔ q.publicKey = p.publicKey :=
  ⟨fun h => by rw [List.inj_on_of_nodup_map hids hq hp h],
    fun h => by rw [List.inj_on_of_nodup_map hkeys hq hp h]⟩

theorem swapped_replaceIn (hlike : p.Like q) :
    Swapped ps (q.replaceIn ps) p.publicKey (some q) where
  mem := by
    intro r
    constructor
    · intro hr
      rcases Keyed.mem_replaceIn hr with ⟨hr, hne⟩ | rfl
      · rw [hlike.id] at hne
        exact .inl ⟨hr, mt (id_eq_iff_key_eq hids hkeys hp hr).2 hne⟩
      · exact .inr rfl
    · rintro (⟨hr, hne⟩ | hr)
      · refine Keyed.mem_replaceIn_of_ne hr ?_
        rw [hlike.id]
        exact mt (id_eq_iff_key_eq hids hkeys hp hr).1 hne
      · rw [← Option.some.inj hr]
        exact Keyed.mem_replaceIn_self hp hlike.id.symm
  key := fun r hr => by rw [← Option.some.inj hr, hlike.key]

theorem swapped_dropFrom : Swapped ps (dropFrom ps p.id) p.publicKey none where
  mem := by
    intro r
    rw [Keyed.mem_dropFrom]
    constructor
    · rintro ⟨hr, hne⟩
      exact .inl ⟨hr, mt (id_eq_iff_key_eq hids hkeys hp hr).2 hne⟩
    · rintro (⟨hr, hne⟩ | hr)
      · exact ⟨hr, mt (id_eq_iff_key_eq hids hkeys hp hr).1 hne⟩
      · cases hr
  key := fun _ hr => by cases hr

end Stored

end Peer

/-! ## The kernel -/

/-- The kernel's peers `ks` are those of the enabled peers of `ps`, one for each. -/
structure Mirrored (ps : List Peer) (ks : List KernelPeer) : Prop where
  nodup : (ks.map KernelPeer.publicKey).Nodup
  only : ∀ k ∈ ks, ∃ p ∈ ps, p.isEnabled = true ∧ p.Mirrors k
  all : ∀ p ∈ ps, p.isEnabled = true → ∃ k ∈ ks, p.Mirrors k

namespace Mirrored

variable {ps ps' : List Peer} {ks : List KernelPeer} {key : Key} {new : Option Peer} {p q : Peer}
  {networks : List Cidr}

theorem nil : Mirrored [] [] := ⟨List.nodup_nil, by simp, by simp⟩

/-- The kernel has no peer of a disabled one. -/
theorem absent (h : Mirrored ps ks) (hkeys : (ps.map Peer.publicKey).Nodup) (hp : p ∈ ps)
    (hd : p.isEnabled = false) : p.publicKey ∉ ks.map KernelPeer.publicKey := by
  intro hmem
  obtain ⟨k, hk, hkey⟩ := List.mem_map.1 hmem
  obtain ⟨q, hq, he, hmirrors⟩ := h.only k hk
  rw [List.inj_on_of_nodup_map hkeys hq hp (hmirrors.key.symm.trans hkey), hd] at he
  cases he

/-- Where one stored peer gives way, all that counts of the changes is what has its key after them. -/
theorem of_swapped (h : Mirrored ps ks) (hswapped : Peer.Swapped ps ps' key new)
    {cs : List PeerChange} (hcs : ∀ c ∈ cs, c.publicKey = key)
    (honly : ∀ k ∈ PeerChange.applyAll cs ks, k.publicKey = key →
      ∃ q, new = some q ∧ q.isEnabled = true ∧ q.Mirrors k)
    (hall : ∀ q, new = some q → q.isEnabled = true →
      key ∈ (PeerChange.applyAll cs ks).map KernelPeer.publicKey) :
    Mirrored ps' (PeerChange.applyAll cs ks) where
  nodup := PeerChange.nodup_applyAll h.nodup
  only := by
    intro k hk
    by_cases hkey : k.publicKey = key
    · obtain ⟨q, hq, he, hmirrors⟩ := honly k hk hkey
      exact ⟨q, (hswapped.mem q).2 (.inr hq), he, hmirrors⟩
    · rw [PeerChange.mem_applyAll_of_ne fun c hc => hcs c hc ▸ hkey] at hk
      obtain ⟨p, hp, he, hmirrors⟩ := h.only k hk
      exact ⟨p, (hswapped.mem p).2 (.inl ⟨hp, hmirrors.key ▸ hkey⟩), he, hmirrors⟩
  all := by
    intro p hp he
    rcases (hswapped.mem p).1 hp with ⟨hp, hkey⟩ | hnew
    · obtain ⟨k, hk, hmirrors⟩ := h.all p hp he
      refine ⟨k, ?_, hmirrors⟩
      rw [PeerChange.mem_applyAll_of_ne fun c hc => ?_]
      · exact hk
      · rw [hcs c hc, hmirrors.key]
        exact hkey
    · obtain ⟨k, hk, hkey⟩ := List.mem_map.1 (hall p hnew he)
      obtain ⟨q, hq, -, hmirrors⟩ := honly k hk hkey
      rw [Option.some.inj (hnew.symm.trans hq)]
      exact ⟨k, hk, hmirrors⟩

/-- A peer that the kernel does not have is installed. -/
theorem install (h : Mirrored ps ks) (hswapped : Peer.Swapped ps ps' q.publicKey (some q))
    (habsent : q.publicKey ∉ ks.map KernelPeer.publicKey) (he : q.isEnabled = true)
    (hnet : q.allowedNetworks = .ok networks) :
    Mirrored ps' (PeerChange.applyAll [q.changeFor networks] ks) := by
  have hafter : PeerChange.applyAll [q.changeFor networks] ks
      = ks ++ [(q.changeFor networks).installed] := PeerChange.apply_of_absent rfl rfl habsent
  refine h.of_swapped hswapped (fun c hc => by rw [List.mem_singleton.1 hc]; rfl) ?_ ?_
  · intro k hk hkey
    rw [hafter, List.mem_append, List.mem_singleton] at hk
    rcases hk with hk | rfl
    · exact absurd (hkey ▸ List.mem_map_of_mem hk) habsent
    · exact ⟨q, rfl, he, Peer.mirrors_installed hnet⟩
  · intro _ _ _
    rw [hafter, List.map_append]
    exact List.mem_append_right _ List.mem_cons_self

/-- An enabled peer is updated. -/
theorem update (h : Mirrored ps ks) (hkeys : (ps.map Peer.publicKey).Nodup) (hp : p ∈ ps)
    (hswapped : Peer.Swapped ps ps' p.publicKey (some q)) (hlike : p.Like q)
    (he : p.isEnabled = true) (heq : q.isEnabled = true) (hnet : p.allowedNetworks = .ok networks) :
    Mirrored ps' (PeerChange.applyAll [q.updateChange p.stored networks] ks) := by
  have hkey : (q.updateChange p.stored networks).publicKey = p.publicKey := hlike.key
  have hafter : PeerChange.applyAll [q.updateChange p.stored networks] ks = ks.map fun k =>
      if k.publicKey = p.publicKey then (q.updateChange p.stored networks).applyTo k else k := by
    rw [← hkey]
    exact PeerChange.apply_of_updateOnly rfl rfl h.nodup
  refine h.of_swapped hswapped (fun c hc => by rw [List.mem_singleton.1 hc, hkey]) ?_ ?_
  · intro k hk hkp
    rw [hafter] at hk
    obtain ⟨old, hold, rfl⟩ := List.mem_map.1 hk
    have holdkey : old.publicKey = p.publicKey := by
      split at hkp
      · assumption
      · exact hkp
    rw [if_pos holdkey]
    obtain ⟨p', hp', -, hmirrors⟩ := h.only old hold
    obtain rfl := List.inj_on_of_nodup_map hkeys hp' hp (hmirrors.key.symm.trans holdkey)
    exact ⟨q, rfl, heq, hmirrors.update hlike hnet⟩
  · intro _ _ _
    obtain ⟨k, hk, hmirrors⟩ := h.all p hp he
    rw [hafter, List.mem_map]
    exact ⟨_, List.mem_map_of_mem hk, by rw [if_pos hmirrors.key]; exact hmirrors.key⟩

/-- A peer is taken out that is not there to stay. -/
theorem take (h : Mirrored ps ks) (hswapped : Peer.Swapped ps ps' key new)
    (hnew : ∀ q, new = some q → q.isEnabled = false) :
    Mirrored ps' (PeerChange.applyAll [.removal key] ks) := by
  have hafter : PeerChange.applyAll [.removal key] ks = ks.filter fun k => k.publicKey ≠ key :=
    PeerChange.apply_of_remove rfl h.nodup
  refine h.of_swapped hswapped (fun c hc => by rw [List.mem_singleton.1 hc]; rfl) ?_ ?_
  · intro k hk hkey
    rw [hafter] at hk
    simpa [hkey] using (List.mem_filter.1 hk).2
  · intro q hq he
    rw [hnew q hq] at he
    cases he

/-- A disabled peer gives way to none or to a disabled one. -/
theorem leave (h : Mirrored ps ks) (hkeys : (ps.map Peer.publicKey).Nodup) (hp : p ∈ ps)
    (hd : p.isEnabled = false) (hswapped : Peer.Swapped ps ps' p.publicKey new)
    (hnew : ∀ q, new = some q → q.isEnabled = false) : Mirrored ps' ks := by
  show Mirrored ps' (PeerChange.applyAll [] ks)
  refine h.of_swapped hswapped (by simp) ?_ ?_
  · intro k hk hkey
    exact absurd (hkey ▸ List.mem_map_of_mem hk) (h.absent hkeys hp hd)
  · intro q hq he
    rw [hnew q hq] at he
    cases he

end Mirrored

/-! ## The pool -/

/-- The address is not for peers of the device: it is its own, or goes to a kernel peer of `us`. -/
def Device.Withholds (dev : Device) (us : List KernelPeer) (a : IpAddress) : Prop :=
  (∃ block, dev.network = .ok block ∧ block.isOwn a) ∨ Pass.Routed us a

/-- What the pool has reserved for peers is what the peers `ps` declare, and what the device withholds
is reserved. -/
structure AddressPool.Accounts (pool : AddressPool) (dev : Device) (us : List KernelPeer)
    (ps : List Peer) : Prop where
  withheld : ∀ a, dev.Withholds us a → pool.contains a = true
  held : ∀ a id, pool.holder? a = some (.peer id) ↔ ∃ p ∈ ps, p.id = id ∧ p.Declares a

namespace AddressPool.Accounts

variable {pool : AddressPool} {dev : Device} {us : List KernelPeer} {ps ps' : List Peer} {p q : Peer}
  {a : IpAddress}

theorem not_declared (h : pool.Accounts dev us ps) (hfree : pool.contains a = false) :
    ∀ p ∈ ps, ¬ p.Declares a := by
  intro p hp ha
  have hheld := (h.held a p.id).2 ⟨p, hp, rfl, ha⟩
  rw [contains_eq_false.1 hfree] at hheld
  cases hheld

theorem not_withheld (h : pool.Accounts dev us ps) (hfree : pool.contains a = false) :
    ¬ dev.Withholds us a := by
  intro ha
  rw [h.withheld a ha] at hfree
  cases hfree

/-- An address that was free goes to a new peer that declares it. -/
theorem put (h : pool.Accounts dev us ps) (hfree : pool.contains a = false) (ha : q.Declares a) :
    (pool.put a (.peer q.id)).Accounts dev us (ps ++ [q]) where
  withheld := fun b hb => (extends_put hfree _).contains (h.withheld b hb)
  held := by
    intro b id
    rw [holder?_put]
    by_cases hab : a = b
    · subst hab
      rw [if_pos rfl, Option.some.injEq, Holder.peer.injEq]
      constructor
      · rintro rfl
        exact ⟨q, by simp, rfl, ha⟩
      · rintro ⟨p, hp, rfl, hpa⟩
        rcases List.mem_append.1 hp with hp | hp
        · exact absurd hpa (h.not_declared hfree p hp)
        · rw [List.mem_singleton.1 hp]
    · rw [if_neg hab, h.held]
      constructor
      · rintro ⟨p, hp, hid, hb⟩
        exact ⟨p, List.mem_append_left _ hp, hid, hb⟩
      · rintro ⟨p, hp, hid, hb⟩
        rcases List.mem_append.1 hp with hp | hp
        · exact ⟨p, hp, hid, hb⟩
        · rw [List.mem_singleton.1 hp] at hb
          exact absurd (ha.eq hb) hab

/-- The peer `p` may give way to one that is like it. -/
theorem of_like (h : pool.Accounts dev us ps) (hids : (ps.map Peer.id).Nodup) (hp : p ∈ ps)
    (hlike : p.Like q) : pool.Accounts dev us (q.replaceIn ps) where
  withheld := h.withheld
  held := by
    intro a id
    rw [h.held]
    constructor
    · rintro ⟨r, hr, rfl, ha⟩
      by_cases hid : r.id = q.id
      · obtain rfl := List.inj_on_of_nodup_map hids hr hp (hid.trans hlike.id)
        exact ⟨q, Keyed.mem_replaceIn_self hr hid, hlike.id, hlike.declares_iff.2 ha⟩
      · exact ⟨r, Keyed.mem_replaceIn_of_ne hr hid, rfl, ha⟩
    · rintro ⟨r, hr, rfl, ha⟩
      obtain ⟨r', hr', hlike'⟩ := Peer.Orderly.like_of_mem_replaceIn hp hlike hr
      exact ⟨r', hr', hlike'.id.symm, hlike'.declares_iff.1 ha⟩

/-- Claiming what the peer declares changes nothing. -/
theorem claim (h : pool.Accounts dev us ps) (hp : p ∈ ps) (ha : p.Declares a) :
    (pool.claim [a] p.id).2.Accounts dev us ps := by
  have hheld : pool.holder? a = some (.peer p.id) := (h.held a p.id).2 ⟨p, hp, rfl, ha⟩
  have hgrants : pool.Grants p.id [a] := by
    intro b hb holder hholder
    rw [List.mem_singleton.1 hb, hheld] at hholder
    exact (Option.some.inj hholder).symm
  have hsame : ∀ b, (pool.claim [a] p.id).2.holder? b = pool.holder? b := by
    intro b
    rw [holder?_claim_of_grants hgrants]
    split
    · rename_i hb
      rw [List.mem_singleton.1 hb, hheld]
    · rfl
  exact ⟨fun b hb => by rw [contains, hsame]; exact h.withheld b hb,
    fun b id => by rw [hsame, h.held]⟩

/-- Giving back what the peer declares, as it goes. -/
theorem release (h : pool.Accounts dev us ps) (hids : (ps.map Peer.id).Nodup) (hp : p ∈ ps)
    (ha : p.Declares a) (hown : ¬ dev.Withholds us a) :
    (pool.releaseAllFor p.id [a]).2.Accounts dev us (Peer.dropFrom ps p.id) := by
  have hholder : ∀ b, (pool.releaseAllFor p.id [a]).2.holder? b
      = if b ∈ [a] ∧ pool.holder? b = some (.peer p.id) then none else pool.holder? b :=
    fun b => (spec_releaseAllFor pool p.id [a] b).2
  constructor
  case withheld =>
    intro b hb
    have hne : ¬ (b ∈ [a] ∧ pool.holder? b = some (.peer p.id)) := by
      rintro ⟨hba, -⟩
      rw [List.mem_singleton.1 hba] at hb
      exact hown hb
    rw [contains, hholder, if_neg hne]
    exact h.withheld b hb
  case held =>
    intro b id
    rw [hholder]
    constructor
    · intro hheld
      split at hheld
      · cases hheld
      · rename_i hkept
        obtain ⟨q, hq, rfl, hb⟩ := (h.held b id).1 hheld
        refine ⟨q, Keyed.mem_dropFrom.2 ⟨hq, fun hid => hkept ⟨?_, hid ▸ hheld⟩⟩, rfl, hb⟩
        rw [List.inj_on_of_nodup_map hids hq hp hid] at hb
        exact List.mem_singleton.2 (hb.eq ha)
    · rintro ⟨q, hq, rfl, hb⟩
      obtain ⟨hq, hne⟩ := Keyed.mem_dropFrom.1 hq
      have hheld := (h.held b q.id).2 ⟨q, hq, rfl, hb⟩
      rw [if_neg, hheld]
      rintro ⟨-, hother⟩
      rw [hheld, Option.some.injEq, Holder.peer.injEq] at hother
      exact hne hother

end AddressPool.Accounts

end TunnelKeeper
