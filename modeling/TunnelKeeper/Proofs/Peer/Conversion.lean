import TunnelKeeper.Proofs.KeyForm
import TunnelKeeper.Proofs.Peer.Stored
import TunnelKeeper.Proofs.UuidSpelling

/-!
# Peers and their rows

A peer is written as one row, and is read from many: a row may spell its identifiers in another form,
have white space around its keys, and hold a preshared key that does not count
(`PeerRow.Respelled`). These are all: a row is read as a peer if and only if the peer is one as it is
stored, and the row is the peer's row but for how it is spelled (`PeerRow.toPeer_eq_ok_iff`). So what
was read is written as the one row that is its own image.
-/

namespace TunnelKeeper.PeerRow

variable {r : PeerRow} {p : Peer} {u id : Uuid} {k : Key} {field s : String}

/-! ## Reading the parts of a row -/

theorem readId_eq_ok_iff : readId s = .ok u ↔ u.Spells s := by
  rw [Uuid.Spells, ← Uuid.parse?_eq_some_iff, readId]
  cases Uuid.parse? s.toList <;> simp

theorem readKey_eq_ok_iff : readKey field s = .ok k ↔ Text.trim s = k.text := by
  rw [← Key.parse_eq_ok_iff, readKey]
  cases Key.parse s with
  | error e => exact iff_of_false (fun h => by cases h) fun h => by cases h
  | ok a =>
    show (.ok a : Except PeerError Key) = .ok k ↔ (.ok a : Except KeyError Key) = .ok k
    rw [Except.ok.injEq, Except.ok.injEq]

/-- The text of the preshared key that counts, less the white space around it. -/
def countedKey (r : PeerRow) : Option String :=
  if r.hasPresharedKey then r.presharedKey.map Text.trim else none

theorem map_some_eq_ok {ε α : Type} {x : Except ε α} {o : Option α} :
    x.map some = .ok o ↔ ∃ a, x = .ok a ∧ o = some a := by
  cases x <;> simp [Except.map, eq_comm]

theorem readPresharedKey_eq_ok_iff {k : Option Key} :
    r.readPresharedKey id = .ok k ↔ r.hasPresharedKey = k.isSome ∧ r.countedKey = k.map Key.text := by
  unfold readPresharedKey countedKey
  cases r.hasPresharedKey with
  | false => cases k <;> simp
  | true =>
    cases r.presharedKey with
    | none => cases k <;> simp
    | some s =>
      simp only [if_true, map_some_eq_ok, readKey_eq_ok_iff]
      cases k <;> simp

/-! ## Rows of one peer -/

/-- What a row has that is read: two identifiers and two keys, and a preshared key if it says that
there is one. -/
structure Readable (r : PeerRow) : Prop where
  id : ∃ u : Uuid, u.Spells r.id
  deviceId : ∃ u : Uuid, u.Spells r.deviceId
  privateKey : ∃ k : Key, Text.trim r.privateKey = k.text
  publicKey : ∃ k : Key, Text.trim r.publicKey = k.text
  presharedKey : r.hasPresharedKey = true → ∃ k : Key, r.presharedKey.map Text.trim = some k.text

/-- The row `r` is `r'` but for how it spells its identifiers, the white space around its keys, and a
preshared key without its flag. -/
structure Respelled (r r' : PeerRow) : Prop where
  id : ∃ u : Uuid, u.Spells r.id ∧ r'.id = u.text
  deviceId : ∃ u : Uuid, u.Spells r.deviceId ∧ r'.deviceId = u.text
  privateKey : r'.privateKey = Text.trim r.privateKey
  publicKey : r'.publicKey = Text.trim r.publicKey
  presharedKey : r'.presharedKey = r.countedKey
  rest : r = { r' with
    id := r.id
    deviceId := r.deviceId
    privateKey := r.privateKey
    publicKey := r.publicKey
    presharedKey := r.presharedKey }

/-- A row is read as a peer if and only if the peer is one as it is stored, and the row is the peer's
row but for how it is spelled. -/
theorem toPeer_eq_ok_iff : r.toPeer = .ok p ↔ p.stored = p ∧ r.Respelled p.toRow := by
  constructor
  · intro h
    simp only [toPeer, bind_eq_ok] at h
    obtain ⟨id, hid, deviceId, hdevice, presharedKey, hpreshared, privateKey, hprivate, publicKey,
      hpublic, hp⟩ := h
    obtain rfl := Except.ok.inj hp
    obtain ⟨hflag, hcounted⟩ := readPresharedKey_eq_ok_iff.1 hpreshared
    refine ⟨rfl, ?_⟩
    exact {
      id := ⟨id, readId_eq_ok_iff.1 hid, rfl⟩
      deviceId := ⟨deviceId, readId_eq_ok_iff.1 hdevice, rfl⟩
      privateKey := (readKey_eq_ok_iff.1 hprivate).symm
      publicKey := (readKey_eq_ok_iff.1 hpublic).symm
      presharedKey := hcounted.symm
      rest := by
        show r = { r with hasPresharedKey := presharedKey.isSome }
        rw [← hflag] }
  · rintro ⟨hp, hr⟩
    have hread : ∀ {u v : Uuid} {s : String}, u.Spells s → v.text = u.text → readId s = .ok v := by
      intro u v s hu hv
      rw [Uuid.text_inj.1 hv, readId_eq_ok_iff.2 hu]
    obtain ⟨_, hid, hidtext⟩ := hr.id
    obtain ⟨_, hdevice, hdevicetext⟩ := hr.deviceId
    have hflag : r.hasPresharedKey = p.presharedKey.isSome := congrArg hasPresharedKey hr.rest
    simp only [toPeer, bind_eq_ok]
    refine ⟨p.id, hread hid hidtext, p.deviceId, hread hdevice hdevicetext, p.presharedKey,
      readPresharedKey_eq_ok_iff.2 ⟨hflag, hr.presharedKey.symm⟩, p.privateKey,
      readKey_eq_ok_iff.2 hr.privateKey.symm, p.publicKey, readKey_eq_ok_iff.2 hr.publicKey.symm, ?_⟩
    rw [hr.rest]
    exact congrArg Except.ok hp

theorem readable_iff : (∃ p, r.toPeer = .ok p) ↔ r.Readable := by
  constructor
  · rintro ⟨p, h⟩
    have hr := (toPeer_eq_ok_iff.1 h).2
    have hflag : r.hasPresharedKey = p.presharedKey.isSome := congrArg hasPresharedKey hr.rest
    obtain ⟨u, hid, -⟩ := hr.id
    obtain ⟨v, hdevice, -⟩ := hr.deviceId
    refine ⟨⟨u, hid⟩, ⟨v, hdevice⟩, ⟨_, hr.privateKey.symm⟩, ⟨_, hr.publicKey.symm⟩, fun hset => ?_⟩
    obtain ⟨k, hk⟩ := Option.isSome_iff_exists.1 (hflag.symm.trans hset)
    have hcounted : p.presharedKey.map Key.text = r.countedKey := hr.presharedKey
    rw [hk, countedKey, if_pos hset] at hcounted
    exact ⟨k, hcounted.symm⟩
  · rintro ⟨⟨u, hid⟩, ⟨v, hdevice⟩, ⟨a, hprivate⟩, ⟨b, hpublic⟩, hpreshared⟩
    obtain ⟨k, hk⟩ : ∃ k, r.readPresharedKey u = .ok k := by
      by_cases hset : r.hasPresharedKey = true
      · obtain ⟨k, hk⟩ := hpreshared hset
        exact ⟨some k, readPresharedKey_eq_ok_iff.2 ⟨hset, by rw [countedKey, if_pos hset, hk]; rfl⟩⟩
      · exact ⟨none, if_neg hset⟩
    simp only [toPeer, bind_eq_ok]
    exact ⟨_, u, readId_eq_ok_iff.2 hid, v, readId_eq_ok_iff.2 hdevice, k, hk, a,
      readKey_eq_ok_iff.2 hprivate, b, readKey_eq_ok_iff.2 hpublic, rfl⟩

/-- The row of a peer reads back as the peer, less what the kernel reports and what its keepalive has
beyond whole seconds; the key of zeros is not taken for none. A row is read if and only if it has what
`Readable` says, and what is read from it has a row that reads the same, is its own image, and is the
first row but for how that is spelled. -/
theorem conversion_normalises :
    (∀ p : Peer, p.toRow.toPeer
      = .ok { p with keepalive := .ofSeconds p.keepalive.seconds, status := .unknown }) ∧
    (∀ p : Peer, { p with presharedKey := some Key.zero }.toRow.toPeer
      ≠ { p with presharedKey := none }.toRow.toPeer) ∧
    (∀ r : PeerRow, (∃ p, r.toPeer = .ok p) ↔ r.Readable) ∧
    ∀ (r : PeerRow) (p : Peer), r.toPeer = .ok p →
      p.toRow.toPeer = .ok p ∧ p.toRow.toPeer.map Peer.toRow = .ok p.toRow ∧
        r.Respelled p.toRow := by
  refine ⟨toPeer_toRow, fun p h => ?_, fun r => readable_iff, fun r p h => ?_⟩
  · rw [toPeer_toRow, toPeer_toRow] at h
    have hkey := congrArg Peer.presharedKey (Except.ok.inj h)
    cases hkey
  · obtain ⟨hp, hr⟩ := toPeer_eq_ok_iff.1 h
    have hback : p.toRow.toPeer = .ok p := by rw [toPeer_toRow, hp]
    exact ⟨hback, by rw [hback]; rfl, hr⟩

end TunnelKeeper.PeerRow

/-! ## A loosely written row -/

namespace TunnelKeeper.Sample

/-- A row with its identifiers in capitals, in braces and without hyphens, a key between a blank and a
line break, and a preshared key that does not count. -/
def looseRow : PeerRow where
  id := "\x7bACDA9B63-45AE-4352-995C-82202086CAC4\x7d"
  deviceId := "B2A1C0DE00000000000000000000000A"
  privateKey := " AQEBAQEBAQEBAQEBAQEBAQEBAQEBAQEBAQEBAQEBAQE=\n"
  publicKey := "AgICAgICAgICAgICAgICAgICAgICAgICAgICAgICAgI="
  hasPresharedKey := false
  presharedKey := some "stray"
  allowedIps := ["10.0.0.2/32"]
  dns := ""
  mtu := 0
  keepaliveSeconds := 15
  name := "laptop"
  email := ""
  description := ""
  tags := []
  isEnabled := true

/-- The row as it is written again. -/
def plainRow : PeerRow :=
  { looseRow with
    id := "acda9b63-45ae-4352-995c-82202086cac4"
    deviceId := "b2a1c0de-0000-0000-0000-00000000000a"
    privateKey := "AQEBAQEBAQEBAQEBAQEBAQEBAQEBAQEBAQEBAQEBAQE="
    presharedKey := none }

def loosePeer : Peer where
  id := ⟨[0xac, 0xda, 0x9b, 0x63, 0x45, 0xae, 0x43, 0x52, 0x99, 0x5c, 0x82, 0x20, 0x20, 0x86, 0xca,
    0xc4], rfl⟩
  deviceId := ⟨[0xb2, 0xa1, 0xc0, 0xde, 0, 0, 0, 0, 0, 0, 0, 0, 0, 0, 0, 0x0a], rfl⟩
  privateKey := ⟨List.replicate 32 1, rfl⟩
  publicKey := ⟨List.replicate 32 2, rfl⟩
  presharedKey := none
  allowedIps := ["10.0.0.2/32"]
  dns := ""
  mtu := 0
  keepalive := .ofSeconds 15
  name := "laptop"
  email := ""
  description := ""
  tags := []
  isEnabled := true
  status := .unknown

theorem conversion_normalises_loose :
    looseRow.toPeer = .ok loosePeer ∧ loosePeer.toRow = plainRow ∧ plainRow.toPeer = .ok loosePeer ∧
      looseRow.Respelled plainRow := by
  have hread : looseRow.toPeer = .ok loosePeer := by rfl
  obtain ⟨-, -, -, himage⟩ := PeerRow.conversion_normalises
  obtain ⟨hback, -, hrespelled⟩ := himage _ _ hread
  have hrow : loosePeer.toRow = plainRow := by decide +kernel
  rw [hrow] at hback hrespelled
  exact ⟨hread, hrow, hback, hrespelled⟩

end TunnelKeeper.Sample
