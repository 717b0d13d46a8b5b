import TunnelKeeper.Proofs.Service.Atomic
import TunnelKeeper.Proofs.Service.Mirror
import TunnelKeeper.Proofs.Service.Turns

/-!
# Store, kernel and pool agree

In a run on one device in which the kernel refuses no change, the interface has the peers that it had
before anything was stored, and one for every enabled stored peer; and the pool has reserved for each
stored peer what it declares (`store_kernel_pool_agree`).

`Agrees` is the invariant. A pass has nothing to change then, and builds the pool anew as it was, from
what the kernel routes and what disabled peers claim (`Agrees.rebuilt`). Each draft of a call makes the
same change to all three (`follows_of_edit`).
-/

namespace TunnelKeeper

/-- What is drawn as a preshared key is not all zeros. -/
def PeerCall.DrawsSecret : PeerCall → Prop
  | .add _ draw req => req.addPresharedKey = true → draw.presharedKey.isZero = false
  | .update _ fresh _ req => req.addPresharedKey = true → fresh.isZero = false
  | _ => True

/-- The stored peer of the device `dev` has a secret preshared key, if any, and is not in the way of
the kernel peers `us`. -/
structure Peer.Fits (dev : Device) (us : List KernelPeer) (p : Peer) : Prop where
  secret : ∀ psk, p.presharedKey = some psk → psk.isZero = false
  key : p.publicKey ∉ us.map KernelPeer.publicKey
  address : ∀ a, p.Declares a → ¬ dev.Withholds us a

theorem Peer.Fits.of_like {dev : Device} {us : List KernelPeer} {p q : Peer} (h : p.Fits dev us)
    (hlike : p.Like q) (hsecret : ∀ psk, q.presharedKey = some psk → psk.isZero = false) :
    q.Fits dev us :=
  ⟨hsecret, hlike.key ▸ h.key, fun a ha => h.address a (hlike.declares_iff.1 ha)⟩

/-- The holder may have the address: it is that of a peer of `ps` that declares it, or of no peer where
the device withholds the address. -/
inductive Holder.Entitled (dev : Device) (us : List KernelPeer) (ps : List Peer) (a : IpAddress) :
    Holder → Prop
  | withheld {holder : Holder} (ha : dev.Withholds us a) (nobody : ∀ id, holder ≠ .peer id) :
    Entitled dev us ps a holder
  | declared {p : Peer} (hp : p ∈ ps) (ha : p.Declares a) : Entitled dev us ps a (.peer p.id)

/-- A preshared key after an update was there before, or is the one that was drawn. -/
theorem Peer.secret_presharedKeyAfter {p : Peer} {req : UpdatePeer} {fresh : Key}
    (hfresh : req.addPresharedKey = true → fresh.isZero = false)
    (hp : ∀ psk, p.presharedKey = some psk → psk.isZero = false) :
    ∀ psk, p.presharedKeyAfter req fresh = some psk → psk.isZero = false := by
  intro psk hpsk
  have hkept : ∀ psk, (if req.removePresharedKey then none else p.presharedKey) = some psk →
      psk.isZero = false := by
    intro psk hpsk
    split at hpsk
    · cases hpsk
    · exact hp psk hpsk
  by_cases hadd : (req.addPresharedKey &&
      (if req.removePresharedKey then none else p.presharedKey).isNone) = true
  · rw [presharedKeyAfter, if_pos hadd] at hpsk
    rw [← Option.some.inj hpsk]
    exact hfresh (Bool.and_eq_true_iff.1 hadd).1
  · rw [presharedKeyAfter, if_neg hadd] at hpsk
    exact hkept psk hpsk

namespace PeerService

open Attempt (Preserves)

variable {κ σ δ : Type} {s : PeerService κ σ δ} {peersOf : κ → String → List KernelPeer}
  {Holds : σ → List Peer → Prop} {dev device : Device} {us ks : List KernelPeer} {ps ps' : List Peer}
  {w w' w₀ : World κ σ δ} {m : ManagedDevice} {c : PeerCall} {d : Draft σ} {p q : Peer} {id : Uuid}
  {i : Pass.Input} {report : SyncReport} {r : Except ServiceFault Unit} {Up : κ → Prop}

/-- Besides the peers `us`, the interface of `dev` has those of the enabled peers of `ps`, which are
what is stored, and the pool of `dev` has reserved what the stored peers declare. -/
structure Agrees (s : PeerService κ σ δ) (peersOf : κ → String → List KernelPeer)
    (Holds : σ → List Peer → Prop) (dev : Device) (us : List KernelPeer) (ps : List Peer)
    (w : World κ σ δ) : Prop where
  ground : s.Grounded Holds dev ps w
  rows : Peer.Orderly ps
  fits : ∀ p ∈ ps, p.Fits dev us
  kernel : ∃ ks, peersOf w.kernel dev.name = us ++ ks ∧ Mirrored ps ks
  pool : ∀ m, w.registry[dev.id]? = some m → ∃ pool, m.pool = some pool ∧ pool.Accounts dev us ps

/-! ## Passes -/

section Passes

variable (hg : s.reconciler.gateway.Faithful peersOf) (hs : s.reconciler.peers.Faithful Holds)
include hg hs

omit hs in
/-- What a pass over the device goes by. -/
theorem Agrees.input (h : s.Agrees peersOf Holds dev us ps w)
    (hc : s.reconciler.Completed id w i device report w') (hid : id = dev.id) :
    i.device = dev ∧ ∃ ks, i.snapshot.peers = us ++ ks ∧ Mirrored ps ks := by
  have hdev : i.device = dev := h.ground.fixed _ (hid ▸ hc.stored)
  obtain ⟨ks, hks, hmirrored⟩ := h.kernel
  refine ⟨hdev, ks, ?_, hmirrored⟩
  rw [(hc.effect hg).1, hdev, hks]

/-- A pass finds nothing to change. -/
theorem Agrees.changes_eq_nil (h : s.Agrees peersOf Holds dev us ps w)
    (hc : s.reconciler.Completed id w i device report w') : i.changes = [] := by
  refine List.eq_nil_iff_forall_not_mem.2 fun change hmem => ?_
  obtain ⟨q, hq, networks, -, hcase⟩ := Pass.spec_change hmem
  obtain ⟨p, hp, hdev, rfl⟩ := (hc.mem_peers_iff hs h.ground.holds).1 hq
  obtain ⟨-, ks, hks, hmirrored⟩ := h.input hg hc (hdev.symm.trans (h.ground.device p hp))
  rw [hks, List.map_append, List.mem_append] at hcase
  rcases hcase with ⟨he, -, habsent⟩ | ⟨hd, -, hmem | hmem⟩
  · obtain ⟨k, hk, hmirrors⟩ := hmirrored.all p hp he
    exact habsent (.inr (hmirrors.key ▸ List.mem_map_of_mem hk))
  · exact (h.fits p hp).key hmem
  · exact hmirrored.absent h.rows.keys hp hd hmem

omit hg in
/-- The pass goes by the stored peers, as their rows read. -/
theorem Agrees.mem_peers_iff (h : s.Agrees peersOf Holds dev us ps w)
    (hc : s.reconciler.Completed id w i device report w') (hid : id = dev.id) :
    q ∈ i.peers ↔ ∃ p ∈ ps, p.stored = q := by
  rw [hc.mem_peers_iff hs h.ground.holds]
  constructor
  · rintro ⟨p, hp, -, hq⟩
    exact ⟨p, hp, hq⟩
  · rintro ⟨p, hp, hq⟩
    exact ⟨p, hp, (h.ground.device p hp).trans hid.symm, hq⟩

/-- Whoever has an address before a pass judges the peers is entitled to it. -/
theorem Agrees.holder_start (h : s.Agrees peersOf Holds dev us ps w)
    (hc : s.reconciler.Completed id w i device report w') (hid : id = dev.id) {a : IpAddress}
    {holder : Holder} (ha : i.start.holder? a = some holder) : holder.Entitled dev us ps a := by
  obtain ⟨hdev, ks, hks, hmirrored⟩ := h.input hg hc hid
  obtain ⟨block, hblock, hbase⟩ := Device.spec_initialPool hc.base
  rcases Pass.holder?_reserveKernel i.peers i.base i.snapshot.peers a with hown | ⟨k, hk, hka, hheld⟩
  · -- the device's own
    have hheld : i.base.holder? a = some holder := hown.symm.trans ha
    rw [hbase] at hheld
    split at hheld
    · rename_i hisOwn
      obtain rfl := Option.some.inj hheld
      exact .withheld (.inl ⟨block, hdev ▸ hblock, hisOwn⟩) fun _ he => by cases he
    · cases hheld
  · obtain rfl := Option.some.inj (hheld.symm.trans ha)
    rw [hks, List.mem_append] at hk
    rcases hk with hk | hk
    · -- routed to a peer of `us`, whose key no stored peer has
      have habsent : k.publicKey ∉ i.peers.map Peer.publicKey := by
        intro hmem
        obtain ⟨q, hq, hkey⟩ := List.mem_map.1 hmem
        obtain ⟨p, hp, rfl⟩ := (h.mem_peers_iff hs hc hid).1 hq
        exact (h.fits p hp).key (List.mem_map.2 ⟨k, hk, hkey.symm⟩)
      rw [Pass.holderOf_of_absent habsent]
      exact .withheld (.inr ⟨k, hk, hka⟩) fun _ he => by cases he
    · obtain ⟨p, hp, -, hmirrors⟩ := hmirrored.only k hk
      have hkeys := hc.nodup_keys hs h.ground.holds h.rows.keys
      rw [Pass.holderOf_eq (p := p.stored) hkeys ((h.mem_peers_iff hs hc hid).2 ⟨p, hp, rfl⟩)
        hmirrors.key]
      exact .declared (p := p) hp (h.rows.declares hp hmirrors.networks hka)

/-- Whoever has an address after a pass is entitled to it. -/
theorem Agrees.holder (h : s.Agrees peersOf Holds dev us ps w)
    (hc : s.reconciler.Completed id w i device report w') (hid : id = dev.id) {a : IpAddress}
    {holder : Holder} (ha : i.pool.holder? a = some holder) : holder.Entitled dev us ps a := by
  rcases Pass.holder?_judgeAll i.snapshot i.start i.peers a with hstart | ⟨q, hq, hclaimed⟩
  · exact h.holder_start hg hs hc hid (hstart.symm.trans ha)
  · obtain ⟨networks, hsound, hqa, hheld⟩ := hclaimed.sound
    obtain ⟨p, hp, rfl⟩ := (h.mem_peers_iff hs hc hid).1 hq
    obtain rfl := Option.some.inj ((hheld a hqa).symm.trans ha)
    exact .declared (p := p) hp (h.rows.declares hp (Pass.check_eq_ok_iff.1 hsound).2 hqa)

/-- A pass over the device builds a pool that accounts for the stored peers. -/
theorem Agrees.rebuilt (h : s.Agrees peersOf Holds dev us ps w)
    (hc : s.reconciler.Completed id w i device report w') (hid : id = dev.id) :
    i.pool.Accounts dev us ps := by
  obtain ⟨hdev, ks, hks, hmirrored⟩ := h.input hg hc hid
  obtain ⟨block, hblock, hbase⟩ := Device.spec_initialPool hc.base
  have hstart : ∀ a, i.start.contains a = true ↔ block.isOwn a ∨ Pass.Routed i.snapshot.peers a :=
    fun a => Pass.Input.contains_start hbase
  constructor
  case withheld =>
    rintro a (⟨block', hblock', hown⟩ | ⟨k, hk, ha⟩)
    · rw [← hdev, hblock] at hblock'
      obtain rfl := Except.ok.inj hblock'
      exact i.pool_extends.contains ((hstart a).2 (.inl hown))
    · refine i.pool_extends.contains ((hstart a).2 (.inr ⟨k, ?_, ha⟩))
      rw [hks]
      exact List.mem_append_left _ hk
  case held =>
    intro a id'
    constructor
    · intro ha
      cases h.holder hg hs hc hid ha with
      | withheld _ nobody => exact absurd rfl (nobody id')
      | declared hp hpa => exact ⟨_, hp, rfl, hpa⟩
    · rintro ⟨p, hp, rfl, hpa⟩
      have hlisted : p.stored ∈ i.peers := (h.mem_peers_iff hs hc hid).2 ⟨p, hp, rfl⟩
      have hreserved : i.pool.contains a = true := by
        refine Pass.Input.contains_of_single hbase hlisted
          (hpa.check (h.rows.valid p hp)) fun he _ => ?_
        obtain ⟨k, hk, hmirrors⟩ := hmirrored.all p hp he
        have hroute : [Cidr.host a] = k.allowedIps :=
          Except.ok.inj (hpa.symm.trans hmirrors.networks)
        rw [hks]
        exact ⟨k, List.mem_append_right _ hk, by rw [← hroute]; exact List.mem_cons_self⟩
      obtain ⟨holder, hheld⟩ := AddressPool.contains_iff.1 hreserved
      rw [hheld]
      cases h.holder hg hs hc hid hheld with
      | withheld hwithheld => exact absurd hwithheld ((h.fits p hp).address a hpa)
      | @declared q hq hqa =>
        -- two peers of the device do not declare one address
        by_cases hne : p.id = q.id
        · rw [hne]
        · exact absurd hqa (h.rows.apart p hp q hq hne
            ((h.ground.device p hp).trans (h.ground.device q hq).symm) a hpa)

theorem preserves_agrees (hd : s.reconciler.devices.Keyed) (id : Uuid) :
    Preserves (s.Agrees peersOf Holds dev us ps) (s.reconciler.syncDevice id) := by
  intro w h
  have hground := Grounded.syncDevice hd id w h.ground
  rcases hrun : s.reconciler.syncDevice id w with ⟨e | report, w'⟩
  · rw [hrun] at hground
    obtain ⟨k, hk, rfl⟩ := Reconciler.syncDevice_error hrun
    refine ⟨hground, h.rows, h.fits, ?_, fun m hm => ?_⟩
    · show ∃ ks, peersOf k dev.name = us ++ ks ∧ Mirrored ps ks
      rw [hk.same_peers hg]
      exact h.kernel
    · exact h.pool m (Registry.of_erase hm)
  · rw [hrun] at hground
    obtain ⟨i, device, hc⟩ := Reconciler.syncDevice_ok hrun
    refine ⟨hground, h.rows, h.fits, ?_, fun m hm => ?_⟩
    · obtain ⟨-, hhere, hother⟩ := hc.effect hg
      rw [h.changes_eq_nil hg hs hc] at hhere
      have hsame : peersOf w'.kernel dev.name = peersOf w.kernel dev.name := by
        by_cases hname : dev.name = i.device.name
        · rw [hname]
          exact hhere
        · exact hother _ hname
      rw [hsame]
      exact h.kernel
    · have hdevice : device.id = id := hc.device_id.trans (hd _ _ _ hc.stored)
      rw [hc.registry] at hm
      rcases Registry.insert_cases hm with ⟨hid, rfl⟩ | ⟨-, hm⟩
      · exact ⟨i.pool, rfl, h.rebuilt hg hs hc (hdevice.symm.trans hid)⟩
      · exact h.pool m hm

end Passes

/-! ## Drafts -/

/-- The draft makes `ps'` of the stored peers `ps`, and of the kernel's peers and the pool what goes
with those. -/
structure Draft.Follows (d : Draft σ) (Holds : σ → List Peer → Prop) (dev : Device)
    (us : List KernelPeer) (ps ps' : List Peer) : Prop where
  writes : Stores Holds d.write ps ps'
  device : ∀ p ∈ ps', p.deviceId = dev.id
  rows : Peer.Orderly ps'
  fits : ∀ p ∈ ps', p.Fits dev us
  apart : ∀ change, d.change = some change → change.publicKey ∉ us.map KernelPeer.publicKey
  kernel : ∀ ks, Mirrored ps ks → Mirrored ps' (PeerChange.applyAll d.change.toList ks)
  pool : ∃ pool, d.taken.pool = some pool ∧ pool.Accounts dev us ps'

section Drafts

variable {pool : AddressPool} {networks : List Cidr}
  (hs : s.reconciler.peers.Faithful Holds) (hw : s.Agrees peersOf Holds dev us ps w)
include hs hw

/-- A stored peer gives way to one that is like it. -/
theorem follows_replace {taken : ManagedDevice} {change : Option PeerChange} (hp : p ∈ ps)
    (hlike : p.Like q) (hvalid : q.validate = .ok ())
    (hsecret : ∀ psk, q.presharedKey = some psk → psk.isZero = false)
    (htaken : ∃ pool, taken.pool = some pool ∧ pool.Accounts dev us ps)
    (hkey : ∀ c, change = some c → c.publicKey = p.publicKey)
    (hkernel : ∀ ks, Mirrored ps ks →
      Mirrored (q.replaceIn ps) (PeerChange.applyAll change.toList ks)) :
    Draft.Follows ⟨taken, s.reconciler.peers.update q, change⟩ Holds dev us ps (q.replaceIn ps) where
  writes := ⟨hs.update_ok, hs.update_error⟩
  device := hw.ground.device_replaceIn hp hlike.device
  rows := hw.rows.replaceIn (hs.nodup hw.ground.holds) hp hlike hvalid
  fits := by
    intro r hr
    rcases Keyed.mem_replaceIn hr with ⟨hr, -⟩ | rfl
    · exact hw.fits r hr
    · exact (hw.fits p hp).of_like hlike hsecret
  apart := by
    intro c hc
    rw [hkey c hc]
    exact (hw.fits p hp).key
  kernel := hkernel
  pool := by
    obtain ⟨pool, hpool, haccounts⟩ := htaken
    exact ⟨pool, hpool, haccounts.of_like (hs.nodup hw.ground.holds) hp hlike⟩

/-- A stored peer and one that is like it may be swapped. -/
theorem swapped_like (hp : p ∈ ps) (hlike : p.Like q) :
    Peer.Swapped ps (q.replaceIn ps) p.publicKey (some q) :=
  Peer.swapped_replaceIn (hs.nodup hw.ground.holds) hw.rows.keys hp hlike

theorem follows_update {fresh : Key} {req : UpdatePeer} (hp : p ∈ ps)
    (hm : ∃ pool, m.pool = some pool ∧ pool.Accounts dev us ps)
    (hfresh : req.addPresharedKey = true → fresh.isZero = false)
    (hvalid : (p.stored.updated s.defaults req fresh).validate = .ok ())
    (hnet : p.allowedNetworks = .ok networks) :
    Draft.Follows ⟨m, s.reconciler.peers.update (p.stored.updated s.defaults req fresh),
      if p.isEnabled then some ((p.stored.updated s.defaults req fresh).updateChange p.stored networks)
      else none⟩ Holds dev us ps ((p.stored.updated s.defaults req fresh).replaceIn ps) := by
  have hlike : p.Like (p.stored.updated s.defaults req fresh) := ⟨rfl, rfl, rfl, rfl⟩
  refine follows_replace hs hw hp hlike hvalid ?_ hm ?_ ?_
  · exact Peer.secret_presharedKeyAfter hfresh (hw.fits p hp).secret
  · intro c hc
    rw [← Option.some.inj (Option.ite_none_right_eq_some.1 hc).2]
    rfl
  · intro ks hks
    have hswapped := swapped_like hs hw hp hlike
    cases he : p.isEnabled with
    | true => exact hks.update hw.rows.keys hp hswapped hlike he he hnet
    | false =>
      refine hks.leave hw.rows.keys hp he hswapped fun q hq => ?_
      rw [← Option.some.inj hq]
      exact he

theorem follows_enable {newly : List IpAddress} {pool' : AddressPool} (hp : p ∈ ps)
    (haccounts : pool.Accounts dev us ps) (hd : p.isEnabled = false) (hnet : p.allowedNetworks = .ok networks)
    (hclaim : pool.claim (networks.map Cidr.ip) p.id = (.ok newly, pool')) :
    Draft.Follows ⟨{ m with pool := some pool' },
      s.reconciler.peers.update { p.stored with isEnabled := true }, some (p.stored.changeFor networks)⟩
      Holds dev us ps (Peer.replaceIn ps { p.stored with isEnabled := true }) := by
  have hlike : p.Like { p.stored with isEnabled := true } := ⟨rfl, rfl, rfl, rfl⟩
  obtain ⟨a, ha⟩ := hw.rows.single p hp
  obtain rfl := Except.ok.inj (hnet.symm.trans ha)
  have hclaimed := haccounts.claim hp ha
  refine follows_replace hs hw hp hlike (hw.rows.valid p hp) (hw.fits p hp).secret
    ⟨pool', rfl, ?_⟩ ?_ ?_
  · rw [show pool.claim [a] p.id = (.ok newly, pool') from hclaim] at hclaimed
    exact hclaimed
  · intro c hc
    rw [← Option.some.inj hc]
    rfl
  · intro ks hks
    have hswapped := swapped_like hs hw hp hlike
    have habsent := hks.absent hw.rows.keys hp hd
    exact Mirrored.install (q := { p.stored with isEnabled := true }) hks hswapped habsent rfl hnet

theorem follows_disable (hp : p ∈ ps) (hm : ∃ pool, m.pool = some pool ∧ pool.Accounts dev us ps) :
    Draft.Follows ⟨m, s.reconciler.peers.update { p.stored with isEnabled := false },
      some (.removal p.publicKey)⟩ Holds dev us ps
      (Peer.replaceIn ps { p.stored with isEnabled := false }) := by
  have hlike : p.Like { p.stored with isEnabled := false } := ⟨rfl, rfl, rfl, rfl⟩
  refine follows_replace hs hw hp hlike (hw.rows.valid p hp) (hw.fits p hp).secret hm ?_ ?_
  · intro c hc
    rw [← Option.some.inj hc]
    rfl
  · intro ks hks
    refine hks.take (swapped_like hs hw hp hlike) fun q hq => ?_
    rw [← Option.some.inj hq]

theorem follows_remove {ips : List IpAddress} (hp : p ∈ ps) (haccounts : pool.Accounts dev us ps)
    (hips : p.reservedIps = .ok ips) :
    Draft.Follows ⟨{ m with pool := some (pool.releaseAllFor p.id ips).2 },
      s.reconciler.peers.remove p.id,
      if p.isEnabled then some (.removal p.publicKey) else none⟩ Holds dev us ps
      (Peer.dropFrom ps p.id) := by
  have hids := hs.nodup hw.ground.holds
  have hkeys := hw.rows.keys
  obtain ⟨a, ha⟩ := hw.rows.single p hp
  obtain rfl : [a] = ips := Except.ok.inj (ha.reservedIps.symm.trans hips)
  constructor
  case writes => exact ⟨hs.remove_ok, hs.remove_error⟩
  case device => exact fun r hr => hw.ground.device r (Keyed.mem_dropFrom.1 hr).1
  case rows => exact hw.rows.dropFrom p.id
  case fits => exact fun r hr => hw.fits r (Keyed.mem_dropFrom.1 hr).1
  case apart =>
    intro c hc
    rw [← Option.some.inj (Option.ite_none_right_eq_some.1 hc).2]
    exact (hw.fits p hp).key
  case kernel =>
    intro ks hks
    have hswapped := Peer.swapped_dropFrom hids hkeys hp
    cases he : p.isEnabled with
    | true => exact hks.take hswapped fun q hq => by cases hq
    | false => exact hks.leave hkeys hp he hswapped fun q hq => by cases hq
  case pool => exact ⟨_, rfl, haccounts.release hids hp ha ((hw.fits p hp).address a ha)⟩

/-- A new peer. -/
theorem follows_add {taken : ManagedDevice} {a : IpAddress} (hfree : pool.contains a = false)
    (haccounts : pool.Accounts dev us ps) (htaken : taken.pool = some (pool.put a (.peer q.id)))
    (ha : q.Declares a) (hvalid : q.validate = .ok ()) (hdev : q.deviceId = dev.id)
    (he : q.isEnabled = true) (hsecret : ∀ psk, q.presharedKey = some psk → psk.isZero = false)
    (hnew : q.publicKey ∉ ps.map Peer.publicKey) (hapart : q.publicKey ∉ us.map KernelPeer.publicKey) :
    Draft.Follows ⟨taken, s.reconciler.peers.add q, some (q.changeFor [Cidr.host a])⟩ Holds dev us ps
      (ps ++ [q]) := by
  have hcases : ∀ r ∈ ps ++ [q], r ∈ ps ∨ r = q := fun r hr =>
    (List.mem_append.1 hr).imp_right List.mem_singleton.1
  constructor
  case writes => exact ⟨hs.add_ok, hs.add_error⟩
  case device =>
    intro r hr
    rcases hcases r hr with hr | rfl
    · exact hw.ground.device r hr
    · exact hdev
  case rows =>
    exact hw.rows.append hvalid ha hnew fun p hp _ => haccounts.not_declared hfree p hp
  case fits =>
    intro r hr
    rcases hcases r hr with hr | rfl
    · exact hw.fits r hr
    · refine ⟨hsecret, hapart, fun b hb => ?_⟩
      rw [hb.eq ha]
      exact haccounts.not_withheld hfree
  case apart =>
    intro c hc
    rw [← Option.some.inj hc]
    exact hapart
  case kernel =>
    intro ks hks
    refine hks.install (Peer.swapped_append hnew) (fun hmem => ?_) he ha
    obtain ⟨k, hk, hkey⟩ := List.mem_map.1 hmem
    obtain ⟨p, hp, -, hmirrors⟩ := hks.only k hk
    exact hnew (List.mem_map.2 ⟨p, hp, hmirrors.key.symm.trans hkey⟩)
  case pool => exact ⟨_, htaken, haccounts.put hfree ha⟩

/-- Every draft makes the same change to store, kernel and pool. -/
theorem follows_of_edit (hm : w.registry[dev.id]? = some m) (hid : m.device.id = dev.id)
    (hsecret : c.DrawsSecret) (hfresh : ∀ now draw req, c = .add now draw req →
      draw.privateKey.publicKey ∉ ps.map Peer.publicKey ∧
        draw.privateKey.publicKey ∉ us.map KernelPeer.publicKey)
    (hedit : s.Edit w.peers m c d) : ∃ ps', d.Follows Holds dev us ps ps' := by
  obtain ⟨pool, hpool, haccounts⟩ := hw.pool m hm
  cases hedit with
  | @add now draw req address networks allocated valid readable =>
    obtain ⟨hnew, hapart⟩ := hfresh now draw req rfl
    cases hblock : m.device.network with
    | error e =>
      rw [ManagedDevice.allocate, hblock] at allocated
      cases allocated
    | ok block =>
      obtain ⟨pool', halloc, htaken⟩ := spec_allocate hpool hblock (Prod.ext allocated rfl)
      obtain ⟨ip, rfl, rfl, -, -, hfree⟩ := AddressPool.spec_allocateFor halloc
      have hdeclares : (newPeer s draw req m (.host ip)).Declares ip := Peer.declares_of_text rfl
      obtain rfl := Except.ok.inj (readable.symm.trans hdeclares)
      refine ⟨_, follows_add hs hw hfree haccounts ?_ hdeclares valid hid rfl ?_ hnew hapart⟩
      · exact congrArg ManagedDevice.pool htaken
      · intro psk hpsk
        have hdrawn : (if req.addPresharedKey then some draw.presharedKey else none) = some psk := hpsk
        split at hdrawn
        · rename_i hadd
          rw [← Option.some.inj hdrawn]
          exact hsecret hadd
        · cases hdrawn
  | @update now fresh id req p networks found valid readable =>
    obtain ⟨q, hq, -, rfl⟩ := hs.get hw.ground.holds found
    exact ⟨_, follows_update hs hw hq ⟨pool, hpool, haccounts⟩ hsecret valid readable⟩
  | @remove id p pool' ips found hasPool readable =>
    obtain ⟨q, hq, rfl, rfl⟩ := hs.get hw.ground.holds found
    obtain rfl := Option.some.inj (hpool.symm.trans hasPool)
    exact ⟨_, follows_remove (p := q) hs hw hq haccounts readable⟩
  | @enable id p pool₁ pool₂ networks newly found disabled hasPool readable claimed =>
    obtain ⟨q, hq, -, rfl⟩ := hs.get hw.ground.holds found
    obtain rfl := Option.some.inj (hpool.symm.trans hasPool)
    exact ⟨_, follows_enable hs hw hq haccounts disabled readable claimed⟩
  | @disable id p found enabled =>
    obtain ⟨q, hq, -, rfl⟩ := hs.get hw.ground.holds found
    exact ⟨_, follows_disable hs hw hq ⟨pool, hpool, haccounts⟩⟩

end Drafts

/-! ## Runs -/

/-- A new peer has an unused key, what is drawn as a preshared key is secret, and the kernel does not
refuse a change. -/
structure Smooth (s : PeerService κ σ δ) (peersOf : κ → String → List KernelPeer)
    (Holds : σ → List Peer → Prop) (w : World κ σ δ) (op : Operation) : Prop where
  suitable : Suitable peersOf Holds w op
  secret : ∀ c : PeerCall, c.operation = op → c.DrawsSecret
  accepted : ∀ c : PeerCall, c.operation = op → NotRefused (s.call c w).1

theorem operation_injective : Function.Injective PeerCall.operation := by
  intro c c' h
  cases c <;> cases c' <;> cases h <;> rfl

theorem Smooth.of_call (hsuitable : Suitable peersOf Holds w c.operation) (hsecret : c.DrawsSecret)
    (haccepted : NotRefused (s.call c w).1) : s.Smooth peersOf Holds w c.operation where
  suitable := hsuitable
  secret := fun _ hc => operation_injective hc ▸ hsecret
  accepted := fun _ hc => operation_injective hc ▸ haccepted

theorem operation_ne_sync (c : PeerCall) : c.operation ≠ .sync id := by
  intro h
  cases c <;> cases h

theorem Smooth.of_sync : s.Smooth peersOf Holds w (.sync id) where
  suitable := trivial
  secret := fun c hc => absurd hc (operation_ne_sync c)
  accepted := fun c hc => absurd hc (operation_ne_sync c)

section Runs

variable (hg : s.reconciler.gateway.Faithful peersOf) (hs : s.reconciler.peers.Faithful Holds)
  (hd : s.reconciler.devices.Keyed)
include hg

omit hg in
theorem Told.eq_ok {g : Gateway κ} {name : String} {change : Option PeerChange} {k k' : κ}
    (h : Told g name change k r k') (hr : NotRefused r) : r = .ok () := by
  cases h with
  | nothing | applied => rfl
  | @refused _ _ _ e => cases hr (.kernelApplyFailed e) rfl

/-- Carrying out a draft leaves store, kernel and pool in agreement. -/
theorem Agrees.carry (hw : s.Agrees peersOf Holds dev us ps w) (hm : w.registry[m.device.id]? = some m)
    (hid : m.device.id = dev.id) (hfollows : d.Follows Holds dev us ps ps')
    (htaken : d.taken.device = m.device) (hout : s.Outcome m d w r w') (hr : NotRefused r) :
    ∃ ps', s.Agrees peersOf Holds dev us ps' w' := by
  cases hout with
  | unstored write =>
    exact ⟨ps, hw.ground.withPeers (hfollows.writes.error hw.ground.holds write) hw.ground.device,
      hw.rows, hw.fits, hw.kernel, hw.pool⟩
  | @stored t r k write told =>
    obtain ⟨hhere, -⟩ := told.underwent hg
    rw [if_pos (told.eq_ok hr), (hw.ground.registered m (hid ▸ hm)).1] at hhere
    refine ⟨ps', hw.ground.carriedOut (hid ▸ hm) htaken (hfollows.writes.ok hw.ground.holds write)
      hfollows.device k, hfollows.rows, hfollows.fits, ?_, fun m' hm' => ?_⟩
    · obtain ⟨ks, hks, hmirrored⟩ := hw.kernel
      refine ⟨_, ?_, hfollows.kernel ks hmirrored⟩
      rw [hhere, hks]
      exact PeerChange.applyAll_append
        (fun c hc => hfollows.apart c (Option.mem_toList.1 hc)) ks
    · obtain ⟨pool, hpool, haccounts⟩ := hfollows.pool
      rcases Registry.insert_cases hm' with ⟨-, rfl⟩ | ⟨hne, -⟩
      · exact ⟨pool, hpool, haccounts⟩
      · exact absurd (by rw [htaken, hid]) hne

include hs hd

theorem agrees_of_run
    (hrun : Relation.ReflTransGen (s.Turn peersOf Holds dev (s.Smooth peersOf Holds) Up) w w')
    (hw : ∃ ps, s.Agrees peersOf Holds dev us ps w) : ∃ ps, s.Agrees peersOf Holds dev us ps w' := by
  refine invariant_of_run (I := fun v => ∃ ps, s.Agrees peersOf Holds dev us ps v) ?_ ?_ ?_ hrun hw
  · rintro id v ⟨ps, hv⟩
    exact ⟨ps, preserves_agrees hg hs hd id v hv⟩
  · rintro v c about fit ⟨ps, hv⟩
    -- the key of a new peer is unused, whatever passes a lookup runs first
    have hfresh : ∀ now draw req, c = .add now draw req →
        draw.privateKey.publicKey ∉ ps.map Peer.publicKey ∧
          draw.privateKey.publicKey ∉ us.map KernelPeer.publicKey := by
      rintro now draw req rfl
      have hunused : Unused peersOf Holds draw.privateKey.publicKey v := fit.suitable
      obtain ⟨ks, hks, -⟩ := hv.kernel
      constructor
      · intro hmem
        obtain ⟨p, hp, hkey⟩ := List.mem_map.1 hmem
        exact hunused.stored ps hv.ground.holds p hp hkey
      · intro hmem
        obtain ⟨k, hk, hkey⟩ := List.mem_map.1 hmem
        refine hunused.kernel dev.name k ?_ hkey
        rw [hks]
        exact List.mem_append_left _ hk
    refine preserves_call (J := fun r u => NotRefused r → ∃ ps, s.Agrees peersOf Holds dev us ps u)
      (preserves_agrees hg hs hd) (fun u hu => hu.ground.keyed) (fun u _ hu _ => ⟨ps, hu⟩) ?_ hv
      (fit.accepted c rfl)
    intro u u' m d r hu hm hconcerns hedit hout
    have hid : m.device.id = dev.id := hu.ground.concerns hs about hconcerns
    obtain ⟨ps', hfollows⟩ :=
      follows_of_edit hs hu (hid ▸ hm) hid (fit.secret c rfl) hfresh hedit
    exact hu.carry hg hm hid hfollows hedit.device hout
  · rintro v k t d hk - ht fixed ⟨ps, hv⟩
    refine ⟨ps, ⟨ht ps hv.ground.holds, hv.ground.device, fixed, hv.ground.keyed,
      hv.ground.registered⟩, hv.rows, hv.fits, ?_, hv.pool⟩
    show ∃ ks, peersOf k dev.name = us ++ ks ∧ Mirrored ps ks
    rw [hk]
    exact hv.kernel

/-- What agrees after a run: the interface has the peers `us` and, for every enabled stored peer, one
with its networks, its preshared key and its keepalive in whole seconds; and as soon as the device is
registered, its pool holds for a peer what the row of that peer declares. -/
structure Agreement (us live : List KernelPeer) (entry : Option ManagedDevice) (ps : List Peer) :
    Prop where
  keys : (ps.map Peer.publicKey).Nodup
  kernel : ∃ ks, live = us ++ ks ∧ (ks.map KernelPeer.publicKey).Nodup ∧
    (∀ k ∈ ks, ∃ p ∈ ps, p.isEnabled = true ∧ k.publicKey = p.publicKey) ∧
    ∀ p ∈ ps, p.isEnabled = true → ∃ k ∈ ks, k.publicKey = p.publicKey ∧
      p.allowedNetworks = .ok k.allowedIps ∧ k.presharedKey = p.presharedKey ∧
      k.keepalive.whole = p.keepalive.whole
  pool : ∀ m, entry = some m → ∃ pool, m.pool = some pool ∧ ∀ a id,
    pool.holder? a = some (.peer id) ↔ ∃ p ∈ ps, p.id = id ∧ ∃ ips, p.reservedIps = .ok ips ∧ a ∈ ips

omit hg hs hd in
theorem Agrees.agreement (h : s.Agrees peersOf Holds dev us ps w) :
    Agreement us (peersOf w.kernel dev.name) w.registry[dev.id]? ps where
  keys := h.rows.keys
  kernel := by
    obtain ⟨ks, hks, hmirrored⟩ := h.kernel
    refine ⟨ks, hks, hmirrored.nodup, fun k hk => ?_, fun p hp he => ?_⟩
    · obtain ⟨p, hp, he, hmirrors⟩ := hmirrored.only k hk
      exact ⟨p, hp, he, hmirrors.key⟩
    · obtain ⟨k, hk, hmirrors⟩ := hmirrored.all p hp he
      refine ⟨k, hk, hmirrors.key, hmirrors.networks, ?_, hmirrors.settled.keepalive⟩
      rw [hmirrors.settled.presharedKey]
      cases hpsk : p.presharedKey with
      | none => rfl
      | some psk => simp [Option.filter, (h.fits p hp).secret psk hpsk]
  pool := by
    intro m hm
    obtain ⟨pool, hpool, haccounts⟩ := h.pool m hm
    refine ⟨pool, hpool, fun a id => ?_⟩
    rw [haccounts.held]
    constructor
    · rintro ⟨p, hp, hid, ha⟩
      exact ⟨p, hp, hid, [a], ha.reservedIps, List.mem_cons_self⟩
    · rintro ⟨p, hp, hid, ips, hips, ha⟩
      obtain ⟨b, hb⟩ := h.rows.single p hp
      obtain rfl := Except.ok.inj (hips.symm.trans hb.reservedIps)
      exact ⟨p, hp, hid, List.mem_singleton.1 ha ▸ hb⟩

/-- From an empty store of peers, store, kernel and pool agree all along. -/
theorem store_kernel_pool_agree (hrows : Holds w₀.peers []) (hregistry : w₀.registry = ∅)
    (hfixed : s.reconciler.devices.Fixes dev w₀.devices)
    (hrun : Relation.ReflTransGen
      (s.Turn peersOf Holds dev (s.Smooth peersOf Holds) fun _ => True) w₀ w) :
    ∃ ps, Holds w.peers ps ∧ (∀ p ∈ ps, p.deviceId = dev.id) ∧
      Agreement (peersOf w₀.kernel dev.name) (peersOf w.kernel dev.name) w.registry[dev.id]? ps := by
  have hinitial : s.Agrees peersOf Holds dev (peersOf w₀.kernel dev.name) [] w₀ := by
    refine ⟨grounded_initial hrows hregistry hfixed, .nil, by simp, ⟨[], by simp, .nil⟩, ?_⟩
    intro m hm
    rw [hregistry, Std.ExtTreeMap.getElem?_empty] at hm
    cases hm
  obtain ⟨ps, hw⟩ := agrees_of_run hg hs hd hrun ⟨[], hinitial⟩
  exact ⟨ps, hw.ground.holds, hw.ground.device, hw.agreement⟩

end Runs

end PeerService

/-! ## A peer beside one that nobody stored -/

namespace Sample

open PeerService

/-- A request for a peer with a preshared key. -/
def secretRequest : AddPeer := { request with addPresharedKey := true }

/-- The interface of the device has a peer that nobody stored. -/
def strangerWorld : World MemoryKernel MemoryPeers MemoryDevices :=
  Reconciler.memoryWorld (interface [kernelPeer 9 [ip 9]]) [device] []

def secretAdd : PeerCall := .add ⟨0, 0⟩ ⟨uuid 1, key 1, key 5⟩ secretRequest

/-- A peer was added, and a pass has been over the device. -/
def agreedWorld : World MemoryKernel MemoryPeers MemoryDevices :=
  service.perform (service.perform strangerWorld secretAdd.operation) (.sync device.id)

theorem store_kernel_pool_agree_stranger :
    agreedWorld.registry[device.id]?.isSome = true ∧
      (agreedWorld.kernel.peersOf device.name).map KernelPeer.presharedKey = [none, some (key 5)] ∧
      ∃ ps, MemoryPeers.Holds agreedWorld.peers ps ∧ (∀ p ∈ ps, p.deviceId = device.id) ∧
        Agreement (strangerWorld.kernel.peersOf device.name) (agreedWorld.kernel.peersOf device.name)
          agreedWorld.registry[device.id]? ps := by
  have hcomputed : (service.call secretAdd strangerWorld).1 = .ok () ∧
      agreedWorld.registry[device.id]?.isSome = true ∧
      (agreedWorld.kernel.peersOf device.name).map KernelPeer.presharedKey = [none, some (key 5)] := by
    decide +kernel
  obtain ⟨hadded, hregistered, hsecrets⟩ := hcomputed
  have hadd : service.Smooth MemoryKernel.peersOf MemoryPeers.Holds strangerWorld
      secretAdd.operation := by
    refine .of_call (.of_memory (by decide +kernel) (by decide +kernel)) (fun _ => by decide) ?_
    rw [hadded]
    exact notRefused_ok ()
  have hrun : Turns (service.Smooth MemoryKernel.peersOf MemoryPeers.Holds) strangerWorld
      agreedWorld :=
    (Relation.ReflTransGen.single (.perform secretAdd.operation rfl hadd)).tail
      (.perform (.sync device.id) trivial .of_sync)
  refine ⟨hregistered, hsecrets, ?_⟩
  exact store_kernel_pool_agree MemoryKernel.faithful MemoryPeers.faithful MemoryDevices.keyed
    (Reconciler.holds_memoryWorld List.nodup_nil) rfl fixes_emptyWorld hrun

end Sample

end TunnelKeeper
