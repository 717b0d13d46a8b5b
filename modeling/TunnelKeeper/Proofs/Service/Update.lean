import TunnelKeeper.Proofs.Service.Edits
import TunnelKeeper.Proofs.Service.Walk
import TunnelKeeper.Proofs.Store.Rows

/-!
# What an update changes

An update reads the row of its peer, and writes it with the fields that the request names
(`Peer.Revised`); but where it finds no name servers or no greatest size of a packet it puts the
defaults, also if the request names neither. So these two are left if and only if they are set or are
the defaults (`update_changes_named`).
-/

namespace TunnelKeeper

/-! ## Peers before and after -/

namespace Peer

/-- What is stored of a peer before and after an update that draws `fresh`. -/
structure Revised (before : Peer) (defaults : PeerDefaults) (req : UpdatePeer) (fresh : Key)
    (after : Peer) : Prop where
  id : after.id = before.id
  deviceId : after.deviceId = before.deviceId
  privateKey : after.privateKey = before.privateKey
  publicKey : after.publicKey = before.publicKey
  allowedIps : after.allowedIps = before.allowedIps
  isEnabled : after.isEnabled = before.isEnabled
  name : after.name = req.name.getD before.name
  email : after.email = req.email.getD before.email
  description : after.description = req.description.getD before.description
  tags : after.tags = req.tags.getD before.tags
  /-- A keepalive that is given is stored in whole seconds. -/
  keepalive : after.keepalive = (req.keepalive.map Duration.whole).getD before.keepalive
  key_kept : req.addPresharedKey = false → req.removePresharedKey = false →
    after.presharedKey = before.presharedKey
  key_removed : req.addPresharedKey = false → req.removePresharedKey = true →
    after.presharedKey = none
  key_added : req.addPresharedKey = true → req.removePresharedKey = false →
    after.presharedKey = some (before.presharedKey.getD fresh)
  key_renewed : req.addPresharedKey = true → req.removePresharedKey = true →
    after.presharedKey = some fresh
  dns_given : ∀ dns, req.dns = some dns →
    after.dns = if Text.isBlankText dns then defaults.dns else dns
  /-- Blank name servers do not stay. -/
  dns_left : req.dns = none →
    after.dns = if Text.isBlankText before.dns then defaults.dns else before.dns
  mtu_given : ∀ mtu, req.mtu = some mtu → after.mtu = if mtu = 0 then defaults.mtu else mtu
  /-- A greatest size of zero does not stay. -/
  mtu_left : req.mtu = none → after.mtu = if before.mtu = 0 then defaults.mtu else before.mtu

variable {before : Peer} {defaults : PeerDefaults} {req : UpdatePeer} {fresh : Key}

theorem presharedKey_updated :
    (before.updated defaults req fresh).presharedKey = before.presharedKeyAfter req fresh := rfl

theorem dns_updated : (before.updated defaults req fresh).stored.dns
    = if Text.isBlankText (req.dns.getD before.dns) then defaults.dns
      else req.dns.getD before.dns := rfl

theorem mtu_updated : (before.updated defaults req fresh).stored.mtu
    = if req.mtu.getD before.mtu = 0 then defaults.mtu else req.mtu.getD before.mtu := rfl

theorem revised_updated (h : before.stored = before) :
    before.Revised defaults req fresh (before.updated defaults req fresh).stored where
  id := rfl
  deviceId := rfl
  privateKey := rfl
  publicKey := rfl
  allowedIps := rfl
  isEnabled := rfl
  name := rfl
  email := rfl
  description := rfl
  tags := rfl
  keepalive := by
    have hwhole : before.keepalive.whole = before.keepalive := congrArg Peer.keepalive h
    show (req.keepalive.getD before.keepalive).whole = _
    cases req.keepalive with
    | none => exact hwhole
    | some k => rfl
  key_kept ha hr := by simp [presharedKey_updated, presharedKeyAfter, ha, hr]
  key_removed ha hr := by simp [presharedKey_updated, presharedKeyAfter, ha, hr]
  key_added ha hr := by
    cases hk : before.presharedKey with
    | none => simp [presharedKey_updated, presharedKeyAfter, ha, hr, hk]
    | some k => simp [presharedKey_updated, presharedKeyAfter, ha, hr, hk]
  key_renewed ha hr := by simp [presharedKey_updated, presharedKeyAfter, ha, hr]
  dns_given dns h := by rw [dns_updated, h, Option.getD_some]
  dns_left h := by rw [dns_updated, h, Option.getD_none]
  mtu_given mtu h := by rw [mtu_updated, h, Option.getD_some]
  mtu_left h := by rw [mtu_updated, h, Option.getD_none]

variable {after : Peer}

/-- Name servers that are not named stay if and only if they are set or are the default. -/
theorem Revised.dns_eq_iff (h : before.Revised defaults req fresh after) (hreq : req.dns = none) :
    after.dns = before.dns ↔ (Text.isBlankText before.dns = true → before.dns = defaults.dns) := by
  rw [h.dns_left hreq, ite_eq_right_iff]
  exact imp_congr_right fun _ => eq_comm

theorem Revised.mtu_eq_iff (h : before.Revised defaults req fresh after) (hreq : req.mtu = none) :
    after.mtu = before.mtu ↔ (before.mtu = 0 → before.mtu = defaults.mtu) := by
  rw [h.mtu_left hreq, ite_eq_right_iff]
  exact imp_congr_right fun _ => eq_comm

end Peer

/-! ## Updates -/

namespace PeerService

variable {κ σ δ : Type} {s : PeerService κ σ δ} {w w' : World κ σ δ} {now : Timestamp} {fresh : Key}
  {id : Uuid} {req : UpdatePeer} {p : Peer} {row? : σ → Uuid → Option PeerRow} {Sound : σ → Prop}

theorem Tells.peers {α : Type} {name : String} {change : Option PeerChange}
    {x : Attempt ServiceFault (World κ σ δ) α} {r : Except ServiceFault α}
    (h : s.Tells name change x) (hx : x w = (r, w')) : w'.peers = w.peers := by
  obtain ⟨k, hk, -⟩ := h w
  rw [hx] at hk
  rw [show w' = _ from hk]

/-- An update that succeeds has stored the peer that the request makes of the stored one. -/
theorem update_ok (h : s.update now fresh id req w = (.ok p, w')) :
    ∃ before, s.reconciler.peers.get w.peers id = .ok before ∧
      s.reconciler.peers.update (before.updated s.defaults req fresh) w.peers
        = (.ok (), w'.peers) := by
  obtain ⟨before, w₁, hstored, h⟩ := Attempt.bind_eq_ok.1 h
  obtain ⟨hget, rfl⟩ := Reconciler.ask_eq_ok.1 hstored
  obtain ⟨m, w₂, hdevice, h⟩ := Attempt.bind_eq_ok.1 h
  have hpeers : w₂.peers = w.peers := by
    have := peers_device (s := s) before.deviceId w
    rwa [hdevice] at this
  obtain ⟨_, _, hvalid, h⟩ := Attempt.bind_eq_ok.1 h
  obtain ⟨-, rfl⟩ := Attempt.ofExcept_eq_ok.1 hvalid
  obtain ⟨networks, _, hnet, h⟩ := Attempt.bind_eq_ok.1 h
  obtain ⟨-, rfl⟩ := Attempt.ofExcept_eq_ok.1 hnet
  obtain ⟨_, w₃, hwrite, h⟩ := Attempt.bind_eq_ok.1 h
  obtain ⟨t, ht, rfl⟩ := Reconciler.onPeers_eq_ok.1 hwrite
  have hstays : w'.peers = t :=
    Tells.peers (.ite ((tells_apply _ _).overlay now m.device _)
      ((tells_pure ()).overlay now m.device _)) h
  rw [hpeers] at ht
  exact ⟨before, hget, hstays ▸ ht⟩

/-- An update that succeeds leaves every field of the stored peer that the request does not name, and
gives the others what the request says, with the defaults for blank name servers and a greatest size of
zero. It puts these defaults also where the request names neither, so that they are left if and only if
they are set or are the defaults. Identifiers, keys, addresses and whether the peer is enabled stay, and
so do all other rows. -/
theorem update_changes_named (hstore : s.reconciler.peers.Rowed row? Sound) (hsound : Sound w.peers)
    (h : s.update now fresh id req w = (.ok p, w')) :
    ∃ r r' before after, row? w.peers id = some r ∧ row? w'.peers id = some r' ∧
      r.toPeer = .ok before ∧ r'.toPeer = .ok after ∧
      before.Revised s.defaults req fresh after ∧
      (req.dns = none → (after.dns = before.dns ↔
        (Text.isBlankText before.dns = true → before.dns = s.defaults.dns))) ∧
      (req.mtu = none → (after.mtu = before.mtu ↔
        (before.mtu = 0 → before.mtu = s.defaults.mtu))) ∧
      ∀ other, other ≠ id → row? w'.peers other = row? w.peers other := by
  obtain ⟨before, hget, hupdate⟩ := update_ok h
  obtain ⟨rfl, r, hr, hread⟩ := hstore.get hsound hget
  obtain ⟨hrow, hothers⟩ := hstore.update hupdate
  have hrevised : before.Revised s.defaults req fresh (before.updated s.defaults req fresh).stored :=
    Peer.revised_updated (PeerRow.toPeer_eq_ok_iff.1 hread).1
  exact ⟨r, _, before, _, hr, hrow, hread, PeerRow.toPeer_toRow _, hrevised, hrevised.dns_eq_iff,
    hrevised.mtu_eq_iff, hothers⟩

end PeerService

/-! ## Rows that were not written by the service -/

namespace Sample

open PeerService

/-- A peer without name servers is there, whose row is written loosely. Its device is registered. -/
def looseWorld : World MemoryKernel MemoryPeers MemoryDevices where
  kernel := .ofTable (.ofList [interface [KernelPeer.new loosePeer.publicKey]])
  peers := ⟨[(loosePeer.id, looseRow)]⟩
  devices := ⟨[]⟩
  registry :=
    (∅ : Registry).insert loosePeer.deviceId ⟨{ device with id := loosePeer.deviceId }, none⟩

/-- Names the name servers, the keepalive and the preshared key. -/
def severalFields : UpdatePeer where
  name := none
  email := none
  description := none
  tags := none
  dns := some "1.1.1.1, 1.0.0.1"
  mtu := none
  keepalive := some ⟨25, 500000000, by decide⟩
  addPresharedKey := true
  removePresharedKey := true

/-- The name alone. -/
def nameOnly : UpdatePeer where
  name := some "desktop"
  email := none
  description := none
  tags := none
  dns := none
  mtu := none
  keepalive := none
  addPresharedKey := false
  removePresharedKey := false

theorem ownIds_looseWorld : MemoryPeers.OwnIds looseWorld.peers :=
  MemoryPeers.ownIds_ofRows (show MemoryPeers.ofRows [looseRow] = .ok looseWorld.peers by rfl)

theorem update_changes_named_loose :
    ∃ p w', service.update ⟨0, 0⟩ (key 7) loosePeer.id severalFields looseWorld = (.ok p, w') ∧
      ∃ r r' before after, looseWorld.peers.row? loosePeer.id = some r ∧
        w'.peers.row? loosePeer.id = some r' ∧ r.toPeer = .ok before ∧ r'.toPeer = .ok after ∧
        before.Revised service.defaults severalFields (key 7) after ∧
        (severalFields.dns = none → (after.dns = before.dns ↔
          (Text.isBlankText before.dns = true → before.dns = service.defaults.dns))) ∧
        (severalFields.mtu = none → (after.mtu = before.mtu ↔
          (before.mtu = 0 → before.mtu = service.defaults.mtu))) ∧
        ∀ other, other ≠ loosePeer.id →
          w'.peers.row? other = looseWorld.peers.row? other := by
  obtain ⟨p, hrun⟩ : ∃ p, service.update ⟨0, 0⟩ (key 7) loosePeer.id severalFields looseWorld
      = (.ok p, _) := Attempt.exists_run_ok (by decide +kernel)
  exact ⟨p, _, hrun, update_changes_named MemoryPeers.rowed ownIds_looseWorld hrun⟩

/-- The peer is there with its row as the stores write it. -/
def plainWorld : World MemoryKernel MemoryPeers MemoryDevices :=
  { looseWorld with peers := ⟨[(loosePeer.id, plainRow)]⟩ }

/-- A request for another name changes the name servers and the greatest size of a packet too. -/
theorem unnamed_fields_change :
    plainWorld.registry[loosePeer.deviceId]?.isSome = true ∧ nameOnly.dns = none ∧
      nameOnly.mtu = none ∧ plainRow.dns = "" ∧ plainRow.mtu = 0 ∧
      ∃ p w', service.update ⟨0, 0⟩ (key 7) loosePeer.id nameOnly plainWorld = (.ok p, w') ∧
        plainWorld.peers.row? loosePeer.id = some plainRow ∧
        w'.peers.row? loosePeer.id = some { plainRow with
          name := "desktop", dns := "9.9.9.9, 149.112.112.112", mtu := 1384 } := by
  obtain ⟨p, hrun⟩ : ∃ p, service.update ⟨0, 0⟩ (key 7) loosePeer.id nameOnly plainWorld
      = (.ok p, _) := Attempt.exists_run_ok (by decide +kernel)
  exact ⟨by decide +kernel, rfl, rfl, rfl, rfl, p, _, hrun, by decide +kernel, by decide +kernel⟩

end Sample

end TunnelKeeper
