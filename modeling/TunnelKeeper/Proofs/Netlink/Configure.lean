import Mathlib.Data.List.Forall2
import TunnelKeeper.Proofs.InMemory
import TunnelKeeper.Proofs.Netlink.Steps

/-!
# Changes to peers, sent and read back

A change to a peer is sent as a setting, which a kernel carries out on what it holds of the peer;
reading tells of that. `KernelPeer.ReadsAs p q` says that `q` is what is read where `p` is meant: a
keepalive in whole seconds and at most `maxKeepalive`, an endpoint less its scope, and the same
networks. It is kept by a change to one peer (`KernelPeer.ReadsAs.applyTo`), by a change to a list of
peers (`readsAs_apply`) and so by a list of changes (`readsAs_applyAll`). What is read after a call is
therefore what the changes mean (`configure_then_read`).
-/

namespace TunnelKeeper

/-! ## Keepalives -/

/-- The interval between keepalives that a kernel keeps where `d` is set. -/
def Duration.kept (d : Duration) : Duration :=
  .ofSeconds (UInt64.ofNat (min maxKeepalive d.seconds.toNat))

theorem Duration.ofSeconds_keepaliveSeconds (d : Duration) :
    .ofSeconds d.keepaliveSeconds.toUInt64 = d.kept := by
  have hlt : min maxKeepalive d.seconds.toNat < UInt16.size :=
    Nat.lt_of_le_of_lt (Nat.min_le_left _ _) (by decide)
  rw [Duration.keepaliveSeconds, UInt16.toUInt64_ofNat' hlt, Duration.kept]

/-- What a kernel keeps, it keeps as it is. -/
theorem Duration.kept_ofSeconds (s : UInt16) :
    (Duration.ofSeconds s.toUInt64).kept = .ofSeconds s.toUInt64 := by
  have hle : s.toUInt64.toNat ≤ maxKeepalive := by
    rw [UInt16.toNat_toUInt64]
    exact Nat.le_of_lt_succ s.toNat_lt
  have hmin : min maxKeepalive (Duration.ofSeconds s.toUInt64).seconds.toNat = s.toUInt64.toNat :=
    Nat.min_eq_right hle
  rw [Duration.kept, hmin, UInt64.ofNat_toNat]

/-! ## Networks -/

/-- What comes after lists with the same elements in the same order, repetitions aside. -/
theorem eraseDups_append_congr {α : Type} [BEq α] [LawfulBEq α] {as bs : List α}
    (h : as.eraseDups = bs.eraseDups) (cs : List α) :
    (as ++ cs).eraseDups = (bs ++ cs).eraseDups := by
  have hmem : ∀ a, as.elem a = bs.elem a := by
    intro a
    rw [Bool.eq_iff_iff, List.elem_iff, List.elem_iff, ← List.mem_eraseDups, h, List.mem_eraseDups]
  have hrest : cs.removeAll as = cs.removeAll bs := by
    simp only [List.removeAll, hmem]
  rw [List.eraseDups_append, List.eraseDups_append, h, hrest]

theorem eraseDups_append_cons_of_mem {α : Type} [BEq α] [LawfulBEq α] {as : List α} {a : α}
    (h : a ∈ as) (cs : List α) : (as ++ a :: cs).eraseDups = (as ++ cs).eraseDups := by
  rw [List.eraseDups_append, List.eraseDups_append, List.cons_removeAll, if_neg]
  simpa using h

namespace AllowedRange

@[simp] theorem toCidr?_ofCidr (c : Cidr) : (ofCidr c).toCidr? = some c := by
  have hlt : c.length < UInt8.size := Nat.lt_of_le_of_lt c.length_le (by
    cases c.ip.family <;> decide)
  rw [toCidr?, ofCidr, UInt8.toNat_ofNat_of_lt' hlt, Cidr.mk?, dif_pos c.length_le]

/-- Adding ranges adds their blocks, repetitions aside. -/
theorem eraseDups_addRanges (ranges : List AllowedRange) (added : List Cidr) :
    ((PeerSetting.addRanges ranges added).filterMap toCidr?).eraseDups
      = (ranges.filterMap toCidr? ++ added).eraseDups := by
  induction added generalizing ranges with
  | nil => rw [PeerSetting.addRanges, List.foldl_nil, List.append_nil]
  | cons c cs ih =>
    have hstep : PeerSetting.addRanges ranges (c :: cs) = PeerSetting.addRanges
        (if ranges.contains (ofCidr c) then ranges else ranges ++ [ofCidr c]) cs := rfl
    rw [hstep, ih]
    split
    · rename_i hc
      have hmem : c ∈ ranges.filterMap toCidr? :=
        List.mem_filterMap.2 ⟨ofCidr c, List.contains_iff_mem.1 hc, toCidr?_ofCidr c⟩
      rw [eraseDups_append_cons_of_mem hmem]
    · rw [List.filterMap_append, List.append_assoc]
      simp

end AllowedRange

/-! ## What is read of a peer -/

/-- The address less its scope. -/
def SocketAddress.unscoped (a : SocketAddress) : SocketAddress := { a with scope := 0 }

namespace LinkPeer

/-- The state of a peer, as a kernel holds it. -/
def held (p : LinkPeer) : KernelPeer where
  publicKey := p.publicKey
  presharedKey := p.presharedKey.unlessZero
  endpoint := p.endpoint
  keepalive := .ofSeconds p.keepalive.toUInt64
  lastHandshake := p.handshake
  rxBytes := p.rxBytes
  txBytes := p.txBytes
  allowedIps := p.allowedIps.filterMap AllowedRange.toCidr?
  protocolVersion := p.protocolVersion

/-- What reading tells of a peer, if it succeeds. -/
def told (p : LinkPeer) : KernelPeer :=
  { p.held with endpoint := p.endpoint.map SocketAddress.unscoped }

/-- No part of the latest handshake is negative, as reading needs it. -/
def HandshakeNonneg (p : LinkPeer) : Prop := 0 ≤ p.handshakeSeconds ∧ 0 ≤ p.handshakeNanoseconds

theorem toKernelPeer?_of_nonneg {p : LinkPeer} (h : p.HandshakeNonneg) :
    p.toKernelPeer? = some p.told := by
  rw [toKernelPeer?, if_neg (by unfold HandshakeNonneg at h; omega)]
  rfl

theorem eq_told {p : LinkPeer} {q : KernelPeer} (h : p.toKernelPeer? = some q) : q = p.told := by
  unfold toKernelPeer? at h
  split at h
  · cases h
  · exact (Option.some.inj h).symm

theorem mapM_toKernelPeer? {ps : List LinkPeer} (h : ∀ p ∈ ps, p.HandshakeNonneg) :
    ps.mapM toKernelPeer? = some (ps.map told) := by
  induction ps with
  | nil => rfl
  | cons p ps ih =>
    rw [List.mapM_cons, toKernelPeer?_of_nonneg (h p List.mem_cons_self),
      ih fun q hq => h q (List.mem_cons_of_mem _ hq)]
    rfl

theorem eq_map_told {ps : List LinkPeer} {qs : List KernelPeer}
    (h : ps.mapM toKernelPeer? = some qs) : qs = ps.map told := by
  induction ps generalizing qs with
  | nil => exact (Option.some.inj h).symm
  | cons p ps ih =>
    simp only [List.mapM_cons, Option.bind_eq_bind, Option.bind_eq_some_iff] at h
    obtain ⟨q, hq, qs', hqs, hall⟩ := h
    rw [← Option.some.inj hall, eq_told hq, ih hqs, List.map_cons]

end LinkPeer

theorem Link.peers_of_snapshot? {l : Link} {s : Snapshot} (h : l.snapshot? = some s) :
    s.peers = l.peers.map LinkPeer.told := by
  obtain ⟨peers, hpeers, rfl⟩ := Option.map_eq_some_iff.1 h
  exact LinkPeer.eq_map_told hpeers

theorem Link.exists_snapshot? {l : Link} (h : ∀ p ∈ l.peers, p.HandshakeNonneg) :
    ∃ s, l.snapshot? = some s := by
  rw [Link.snapshot?, LinkPeer.mapM_toKernelPeer? h]
  exact ⟨_, rfl⟩

/-- Reading `q` is reading what is meant by `p`. -/
structure KernelPeer.ReadsAs (p q : KernelPeer) : Prop where
  publicKey : q.publicKey = p.publicKey
  presharedKey : q.presharedKey = p.presharedKey
  /-- Reading tells no scope. -/
  endpoint : q.endpoint = p.endpoint.map SocketAddress.unscoped
  keepalive : q.keepalive = p.keepalive.kept
  /-- The networks are the same in the same order; one that was named again counts once. -/
  allowedIps : q.allowedIps.eraseDups = p.allowedIps.eraseDups
  lastHandshake : q.lastHandshake = p.lastHandshake
  rxBytes : q.rxBytes = p.rxBytes
  txBytes : q.txBytes = p.txBytes
  protocolVersion : q.protocolVersion = p.protocolVersion

/-! ## Changes -/

namespace KernelPeer.ReadsAs

theorem told_held (p : LinkPeer) : p.held.ReadsAs p.told where
  publicKey := rfl
  presharedKey := rfl
  endpoint := rfl
  keepalive := (Duration.kept_ofSeconds p.keepalive).symm
  allowedIps := rfl
  lastHandshake := rfl
  rxBytes := rfl
  txBytes := rfl
  protocolVersion := rfl

theorem new (key : Key) : (KernelPeer.new key).ReadsAs (LinkPeer.new key).told where
  publicKey := rfl
  presharedKey := (by decide : Key.zero.unlessZero = none)
  endpoint := rfl
  keepalive := (by decide : Duration.ofSeconds (0 : UInt16).toUInt64 = Duration.zero.kept)
  allowedIps := rfl
  lastHandshake := rfl
  rxBytes := rfl
  txBytes := rfl
  protocolVersion := rfl

/-- A peer that was given a setting reads as the change means it. -/
theorem applyTo {p : KernelPeer} {q : LinkPeer} (h : p.ReadsAs q.told) (c : PeerChange) :
    (c.applyTo p).ReadsAs ((PeerSetting.ofChange c).applyTo q).told where
  publicKey := h.publicKey
  presharedKey := by
    have hold := h.presharedKey
    show (c.presharedKey.getD q.presharedKey).unlessZero = c.presharedKeyAfter p.presharedKey
    unfold PeerChange.presharedKeyAfter
    cases c.presharedKey with
    | none => exact hold
    | some k => rfl
  endpoint := by
    have hold : q.endpoint.map SocketAddress.unscoped = p.endpoint.map SocketAddress.unscoped :=
      h.endpoint
    show (c.endpoint.or q.endpoint).map _ = (c.endpoint.or p.endpoint).map _
    rw [Option.map_or, Option.map_or, hold]
  keepalive := by
    show Duration.ofSeconds ((c.keepalive.map Duration.keepaliveSeconds).getD q.keepalive).toUInt64
      = (c.keepalive.getD p.keepalive).kept
    cases c.keepalive with
    | none => exact h.keepalive
    | some d => exact d.ofSeconds_keepaliveSeconds
  allowedIps := by
    show ((PeerSetting.addRanges (if c.replaceAllowedIps then [] else q.allowedIps)
        c.allowedIps).filterMap AllowedRange.toCidr?).eraseDups
      = (if c.replaceAllowedIps then c.allowedIps else p.allowedIps ++ c.allowedIps).eraseDups
    rw [AllowedRange.eraseDups_addRanges]
    split
    · rfl
    · exact eraseDups_append_congr h.allowedIps c.allowedIps
  lastHandshake := h.lastHandshake
  rxBytes := h.rxBytes
  txBytes := h.txBytes
  protocolVersion := h.protocolVersion

end KernelPeer.ReadsAs

/-- Peers as they are meant, and peers that a kernel holds. -/
abbrev PeersReadAs : List KernelPeer → List LinkPeer → Prop :=
  List.Forall₂ fun p q => p.ReadsAs q.told

theorem readsAs_held (ps : List LinkPeer) : PeersReadAs (ps.map LinkPeer.held) ps :=
  List.forall₂_map_left_iff.2 (List.forall₂_same.2 fun p _ => .told_held p)

/-- One change goes the same way on both sides: the first peer with its key is found, and removed or
changed, and one that is not found is added or left out. -/
theorem readsAs_apply {ps : List KernelPeer} {qs : List LinkPeer} (h : PeersReadAs ps qs)
    (c : PeerChange) : PeersReadAs (c.apply ps) ((PeerSetting.ofChange c).apply qs) := by
  induction h with
  | nil =>
    rw [PeerChange.apply, PeerSetting.apply]
    show PeersReadAs _ (if c.remove || c.updateOnly then [] else _)
    split
    · exact .nil
    · exact .cons ((KernelPeer.ReadsAs.new c.publicKey).applyTo c) .nil
  | @cons p q ps qs hp hps ih =>
    rw [PeerChange.apply, PeerSetting.apply]
    have hkey : q.publicKey = p.publicKey := hp.publicKey
    show PeersReadAs _ (if q.publicKey = c.publicKey then
      if c.remove then qs else (PeerSetting.ofChange c).applyTo q :: qs
      else q :: (PeerSetting.ofChange c).apply qs)
    rw [hkey]
    split
    · split
      · exact hps
      · exact .cons (hp.applyTo c) hps
    · exact .cons hp ih

/-- Changes in a row, of which later ones work on what earlier ones left. -/
theorem readsAs_applyAll {ps : List KernelPeer} {qs : List LinkPeer} (h : PeersReadAs ps qs)
    (cs : List PeerChange) : PeersReadAs (PeerChange.applyAll cs ps)
      ((cs.map PeerSetting.ofChange).foldl (fun qs s => s.apply qs) qs) := by
  induction cs generalizing ps qs with
  | nil => exact h
  | cons c cs ih => exact ih (readsAs_apply h c)

/-- Settings leave handshakes alone, and a new peer has none. -/
theorem handshakeNonneg_apply {ps : List LinkPeer} (h : ∀ p ∈ ps, p.HandshakeNonneg)
    (s : PeerSetting) : ∀ p ∈ s.apply ps, p.HandshakeNonneg := by
  induction ps with
  | nil =>
    rw [PeerSetting.apply]
    split
    · exact fun p hp => absurd hp List.not_mem_nil
    · intro p hp
      rw [List.mem_singleton.1 hp]
      exact ⟨Int.le_refl 0, Int.le_refl 0⟩
  | cons q qs ih =>
    obtain ⟨hq, hqs⟩ := List.forall_mem_cons.1 h
    rw [PeerSetting.apply]
    split
    · split
      · exact hqs
      · exact List.forall_mem_cons.2 ⟨hq, hqs⟩
    · exact List.forall_mem_cons.2 ⟨hq, ih hqs⟩

theorem handshakeNonneg_applyAll {ps : List LinkPeer} (h : ∀ p ∈ ps, p.HandshakeNonneg)
    (cs : List PeerChange) :
    ∀ p ∈ (cs.map PeerSetting.ofChange).foldl (fun ps s => s.apply ps) ps, p.HandshakeNonneg := by
  induction cs generalizing ps with
  | nil => exact h
  | cons c cs ih => exact ih (handshakeNonneg_apply h _)

/-! ## Calls -/

namespace Netlink

variable {k : Kernel} {t : LinkTable} {name : String} {l : Link}

theorem yields_configure (h : t.tunnel? name = some l) (changes : List PeerChange) :
    Yields (gateway.configure name changes) t ()
      (t.change (·.name = name) (TunnelSetting.ofChanges changes).applyTo) :=
  (yields_requireTunnel h).bind ((yields_openTunnels t).bind (yields_setTunnel h _))

/-- Reading tells of the tunnel, if that can be told. -/
theorem read_toOption (hk : k.Calm t) (h : t.tunnel? name = some l) :
    (gateway.read name k).1.toOption = l.snapshot? := by
  obtain ⟨k₁, hrequire, hk₁⟩ := (yields_requireTunnel h).run hk
  obtain ⟨k₂, hopen, hk₂⟩ := (yields_openTunnels t).run hk₁
  obtain ⟨k₃, hget, hk₃⟩ := (yields_getTunnel h).run hk₂
  simp only [gateway, readTunnel]
  rw [Attempt.bind_of_ok hrequire, Attempt.bind_of_ok hopen, Attempt.bind_of_ok hget]
  cases l.snapshot? <;> rfl

/-- Of a tunnel whose peers are changed and then read, what is read is what the changes mean. -/
theorem configure_then_read (hk : k.failing = []) (h : k.table.tunnel? name = some l)
    (changes : List PeerChange) :
    ∃ k₁, gateway.configure name changes k = (.ok (), k₁) ∧
      (∀ s k₂, gateway.read name k₁ = (.ok s, k₂) → List.Forall₂ KernelPeer.ReadsAs
        (PeerChange.applyAll changes (l.peers.map LinkPeer.held)) s.peers) ∧
      ((∀ p ∈ l.peers, p.HandshakeNonneg) → ∃ s k₂, gateway.read name k₁ = (.ok s, k₂)) := by
  have hname : l.name = name := (LinkTable.mem_of_find? (LinkTable.tunnel?_eq_some.1 h).1).2
  obtain ⟨k₁, hconfigure, hk₁⟩ := (yields_configure h changes).run ⟨hk, rfl⟩
  have hthere : (k.table.change (·.name = name) (TunnelSetting.ofChanges changes).applyTo).tunnel?
      name = some ((TunnelSetting.ofChanges changes).applyTo l) :=
    LinkTable.tunnel?_change (fun _ => rfl) (fun _ => rfl) (decide_eq_true hname) h
  have hread := read_toOption hk₁ hthere
  have hmeant : PeersReadAs (PeerChange.applyAll changes (l.peers.map LinkPeer.held))
      ((TunnelSetting.ofChanges changes).applyTo l).peers :=
    readsAs_applyAll (readsAs_held l.peers) changes
  refine ⟨k₁, hconfigure, ?_, ?_⟩
  · intro s k₂ hs
    rw [hs] at hread
    rw [Link.peers_of_snapshot? hread.symm]
    exact List.forall₂_map_right_iff.2 hmeant
  · intro hnonneg
    obtain ⟨s, hs⟩ := Link.exists_snapshot? (l := (TunnelSetting.ofChanges changes).applyTo l)
      (handshakeNonneg_applyAll hnonneg changes)
    obtain ⟨s, hrun⟩ := Attempt.exists_run_ok (by rw [hread, hs, Option.isSome_some])
    exact ⟨s, _, hrun⟩

end Netlink

/-! ## Changes in a row -/

namespace Sample

open Netlink

/-- The links of a kernel with one tunnel that has these peers. -/
def tunnelOf (peers : List LinkPeer) : Link := { Link.new 1 "wg0" Link.tunnelKind with peers }

def kernelOf (peers : List LinkPeer) : Kernel := .ofTable ⟨[tunnelOf peers], 2⟩

/-- A peer with a preshared key and two networks, and one without. -/
def linkPeers : List LinkPeer :=
  [{ LinkPeer.new (key 1) with
      presharedKey := key 5
      keepalive := 25
      allowedIps := [⟨ip 2, 32⟩, ⟨ip 3, 32⟩] },
   LinkPeer.new (key 2)]

/-- A change of a peer's preshared key, keepalive and networks. -/
def peerChange (publicKey : Key) (presharedKey : Option Key) (keepalive : Option Duration)
    (allowedIps : List Cidr) : PeerChange :=
  ⟨publicKey, presharedKey, none, keepalive, false, allowedIps, false, false⟩

/-- One key twice, the second time to replace its networks; a key that is removed and comes back; and
one that is not there and is only to be changed. -/
def severalChanges : List PeerChange :=
  [peerChange (key 1) (some .zero) (some ⟨70000, 750000000, by decide⟩) [.host (ip 3), .host (ip 4)],
   .removal (key 2),
   { peerChange (key 9) none none [.host (ip 9)] with updateOnly := true },
   { peerChange (key 1) none none [.host (ip 6)] with replaceAllowedIps := true },
   peerChange (key 2) (some (key 7)) none [.host (ip 5), .host (ip 5)]]

theorem configure_then_read_several :
    ∃ k₁, gateway.configure "wg0" severalChanges (kernelOf linkPeers) = (.ok (), k₁) ∧
      (∀ s k₂, gateway.read "wg0" k₁ = (.ok s, k₂) → List.Forall₂ KernelPeer.ReadsAs
        (PeerChange.applyAll severalChanges (linkPeers.map LinkPeer.held)) s.peers) ∧
      ((∀ p ∈ linkPeers, p.HandshakeNonneg) →
        ∃ s k₂, gateway.read "wg0" k₁ = (.ok s, k₂)) := by
  have hthere : (kernelOf linkPeers).table.tunnel? "wg0" = some (tunnelOf linkPeers) := rfl
  exact configure_then_read rfl hthere severalChanges

/-- An endpoint on the third link. -/
def linkLocal : SocketAddress := ⟨.v6 0xfe800000000000000000000000000001, 80, 3⟩

/-- Sets the endpoint of a peer. -/
def endpointChange : PeerChange :=
  { peerChange (key 1) none none [] with endpoint := some linkLocal }

/-- The scope of an endpoint that was set is not read back. -/
theorem scope_not_read :
    ∃ k₁ s k₂, gateway.configure "wg0" [endpointChange] (kernelOf []) = (.ok (), k₁) ∧
      gateway.read "wg0" k₁ = (.ok s, k₂) ∧
      (PeerChange.applyAll [endpointChange] []).map KernelPeer.endpoint = [some linkLocal] ∧
      s.peers.map KernelPeer.endpoint = [some ⟨linkLocal.ip, 80, 0⟩] :=
  ⟨_, _, _, rfl, rfl, rfl, rfl⟩

end Sample

end TunnelKeeper
