import TunnelKeeper.Proofs.Net.CidrText
import TunnelKeeper.Proofs.Reconcile.Plan
import TunnelKeeper.Proofs.Store.Faithful

/-!
# Stored peers in order

`Peer.Orderly ps` is what the services keep of the stored peers: each is valid and declares one
address, and no two of them have a key or, on the same device, an address in common. It survives
whatever leaves identity, device, key and addresses alone (`Orderly.of_like`), so of all changes only
adding a peer has something to show (`Orderly.append`).
-/

namespace TunnelKeeper

namespace Peer

/-- The peer declares the address `a` and no other. -/
def Declares (p : Peer) (a : IpAddress) : Prop := p.allowedNetworks = .ok [Cidr.host a]

/-- `q` has the identity, the device, the key and the addresses of `p`. -/
structure Like (p q : Peer) : Prop where
  id : q.id = p.id
  device : q.deviceId = p.deviceId
  key : q.publicKey = p.publicKey
  ips : q.allowedIps = p.allowedIps

/-- The invariant of the stored peers (module doc). -/
structure Orderly (ps : List Peer) : Prop where
  valid : ∀ p ∈ ps, p.validate = .ok ()
  single : ∀ p ∈ ps, ∃ a, p.Declares a
  keys : (ps.map Peer.publicKey).Nodup
  apart : ∀ p ∈ ps, ∀ q ∈ ps, p.id ≠ q.id → p.deviceId = q.deviceId →
    ∀ a, p.Declares a → ¬ q.Declares a

variable {p q : Peer} {ps : List Peer} {a b : IpAddress}

theorem Like.refl (p : Peer) : p.Like p := ⟨rfl, rfl, rfl, rfl⟩

theorem Like.declares_iff (h : p.Like q) : q.Declares a ↔ p.Declares a := by
  rw [Declares, Declares, allowedNetworks, allowedNetworks, h.ips]

theorem declares_of_text (h : p.allowedIps = [(Cidr.host a).text]) : p.Declares a := by
  rw [Declares, allowedNetworks, h, readAllowedIps, readAllowedIp_text]
  rfl

theorem Declares.eq (h : p.Declares a) (h' : p.Declares b) : a = b := by
  have := Except.ok.inj (h.symm.trans h')
  rw [List.cons.injEq] at this
  exact congrArg Cidr.ip this.1

theorem Declares.check (h : p.Declares a) (hv : p.validate = .ok ()) :
    Pass.check p = .ok [Cidr.host a] := Pass.check_eq_ok_iff.2 ⟨hv, h⟩

theorem Declares.reservedIps (h : p.Declares a) : p.reservedIps = .ok [a] := by
  rw [Peer.reservedIps, h]
  rfl

namespace Orderly

theorem nil : Orderly [] := ⟨by simp, by simp, by simp, by simp⟩

theorem declares (h : Orderly ps) (hp : p ∈ ps) {networks : List Cidr}
    (hnet : p.allowedNetworks = .ok networks) (ha : a ∈ networks.map Cidr.ip) : p.Declares a := by
  obtain ⟨b, hb⟩ := h.single p hp
  obtain rfl := Except.ok.inj (hnet.symm.trans hb)
  rwa [List.mem_singleton.1 ha]

/-- Fields that the invariant does not speak of may change, as long as the peers stay valid. -/
theorem of_like {ps' : List Peer} (h : Orderly ps) (hlike : ∀ q ∈ ps', ∃ p ∈ ps, p.Like q)
    (hvalid : ∀ q ∈ ps', q.validate = .ok ()) (hkeys : (ps'.map Peer.publicKey).Nodup) :
    Orderly ps' where
  valid := hvalid
  single := by
    intro q hq
    obtain ⟨p, hp, hpq⟩ := hlike q hq
    obtain ⟨a, ha⟩ := h.single p hp
    exact ⟨a, hpq.declares_iff.2 ha⟩
  keys := hkeys
  apart := by
    intro q hq q' hq' hne hdev a ha ha'
    obtain ⟨p, hp, hpq⟩ := hlike q hq
    obtain ⟨p', hp', hpq'⟩ := hlike q' hq'
    rw [hpq.id, hpq'.id] at hne
    rw [hpq.device, hpq'.device] at hdev
    exact h.apart p hp p' hp' hne hdev a (hpq.declares_iff.1 ha) (hpq'.declares_iff.1 ha')

theorem dropFrom (h : Orderly ps) (id : Uuid) : Orderly (dropFrom ps id) := by
  have hsub : (Peer.dropFrom ps id).Sublist ps := List.filter_sublist
  exact h.of_like (fun q hq => ⟨q, hsub.subset hq, .refl q⟩) (fun q hq => h.valid q (hsub.subset hq))
    ((hsub.map _).nodup h.keys)

/-- What stands in for a stored peer is like one. -/
theorem like_of_mem_replaceIn {r : Peer} (hp : p ∈ ps) (hlike : p.Like q) (hr : r ∈ q.replaceIn ps) :
    ∃ p' ∈ ps, p'.Like r := by
  rcases Keyed.mem_replaceIn hr with ⟨hr, -⟩ | rfl
  · exact ⟨r, hr, .refl r⟩
  · exact ⟨p, hp, hlike⟩

theorem replaceIn (h : Orderly ps) (hids : (ps.map Peer.id).Nodup) (hp : p ∈ ps) (hlike : p.Like q)
    (hvalid : q.validate = .ok ()) : Orderly (q.replaceIn ps) := by
  refine h.of_like (fun r hr => like_of_mem_replaceIn hp hlike hr) (fun r hr => ?_) ?_
  · rcases Keyed.mem_replaceIn hr with ⟨hr, -⟩ | rfl
    · exact h.valid r hr
    · exact hvalid
  · have hsame : (q.replaceIn ps).map Peer.publicKey = ps.map Peer.publicKey := by
      rw [Peer.replaceIn, Keyed.replaceIn, List.map_map]
      refine List.map_congr_left fun r hr => ?_
      rw [Function.comp_apply]
      split
      · rename_i hid
        rw [List.inj_on_of_nodup_map hids hr hp (hid.trans hlike.id), hlike.key]
      · rfl
    rw [hsame]
    exact h.keys

/-- A new peer fits if its key is new and its address is one that no peer of its device declares. -/
theorem append (h : Orderly ps) (hvalid : q.validate = .ok ()) (ha : q.Declares a)
    (hkey : q.publicKey ∉ ps.map Peer.publicKey)
    (hfree : ∀ p ∈ ps, p.deviceId = q.deviceId → ¬ p.Declares a) : Orderly (ps ++ [q]) where
  valid := by
    intro p hp
    rcases List.mem_append.1 hp with hp | hp
    · exact h.valid p hp
    · rw [List.mem_singleton.1 hp]
      exact hvalid
  single := by
    intro p hp
    rcases List.mem_append.1 hp with hp | hp
    · exact h.single p hp
    · rw [List.mem_singleton.1 hp]
      exact ⟨a, ha⟩
  keys := by
    rw [List.map_append, List.map_singleton]
    refine List.nodup_append.2 ⟨h.keys, List.nodup_singleton _, ?_⟩
    intro x hx y hy he
    rw [List.mem_singleton.1 hy] at he
    exact hkey (he ▸ hx)
  apart := by
    intro p hp p' hp' hne hdev b hb hb'
    rcases List.mem_append.1 hp with hold | hnew
    · rcases List.mem_append.1 hp' with hold' | hnew'
      · exact h.apart p hold p' hold' hne hdev b hb hb'
      · obtain rfl := List.mem_singleton.1 hnew'
        obtain rfl := ha.eq hb'
        exact hfree p hold hdev hb
    · obtain rfl := List.mem_singleton.1 hnew
      obtain rfl := ha.eq hb
      rcases List.mem_append.1 hp' with hold' | hnew'
      · exact hfree p' hold' hdev.symm hb'
      · rw [List.mem_singleton.1 hnew'] at hne
        exact hne rfl

end Orderly

end Peer

end TunnelKeeper
