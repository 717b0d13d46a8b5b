import TunnelKeeper.Proofs.KeyText
import TunnelKeeper.Proofs.UuidText
import TunnelKeeper.Store.Basic

/-!
# What a stored peer reads back as

The row of a peer is read as `Peer.stored`: the peer less what a row leaves out
(`PeerRow.toPeer_toRow`). A pass asks a store for the peers of a device; out of the rows of peers the
listing is those peers in some order (`PeerRow.select_ofDevice`).
-/

namespace TunnelKeeper

/-! ## Reading a row -/

namespace Peer

@[simp] theorem id_stored (p : Peer) : p.stored.id = p.id := rfl

@[simp] theorem deviceId_stored (p : Peer) : p.stored.deviceId = p.deviceId := rfl

@[simp] theorem publicKey_stored (p : Peer) : p.stored.publicKey = p.publicKey := rfl

@[simp] theorem presharedKey_stored (p : Peer) : p.stored.presharedKey = p.presharedKey := rfl

@[simp] theorem allowedIps_stored (p : Peer) : p.stored.allowedIps = p.allowedIps := rfl

@[simp] theorem keepalive_stored (p : Peer) : p.stored.keepalive = p.keepalive.whole := rfl

@[simp] theorem isEnabled_stored (p : Peer) : p.stored.isEnabled = p.isEnabled := rfl

@[simp] theorem validate_stored (p : Peer) : p.stored.validate = p.validate := rfl

@[simp] theorem allowedNetworks_stored (p : Peer) :
    p.stored.allowedNetworks = p.allowedNetworks := rfl

end Peer

namespace PeerRow

theorem bind_eq_ok {ε α β : Type} {x : Except ε α} {f : α → Except ε β} {b : β} :
    (x >>= f) = .ok b ↔ ∃ a, x = .ok a ∧ f a = .ok b := by
  cases x with
  | error e => simp [bind, Except.bind]
  | ok a => simp [bind, Except.bind]

theorem readId_text (u : Uuid) : readId u.text = .ok u := by
  rw [readId, Uuid.parse?_text]

theorem readKey_text (field : String) (k : Key) : readKey field k.text = .ok k := by
  rw [readKey, Key.parse_text]
  rfl

theorem readPresharedKey_toRow (p : Peer) (id : Uuid) :
    p.toRow.readPresharedKey id = .ok p.presharedKey := by
  unfold readPresharedKey
  cases hk : p.presharedKey with
  | none => simp [Peer.toRow, hk]
  | some k => simp [Peer.toRow, hk, readKey_text, Except.map]

/-- The row of a peer reads back, with the keepalive in whole seconds and nothing reported. -/
theorem toPeer_toRow (p : Peer) : p.toRow.toPeer = .ok p.stored := by
  have hid : readId p.toRow.id = .ok p.id := readId_text p.id
  have hdevice : readId p.toRow.deviceId = .ok p.deviceId := readId_text p.deviceId
  have hprivate : readKey "private_key" p.toRow.privateKey = .ok p.privateKey := readKey_text _ _
  have hpublic : readKey "public_key" p.toRow.publicKey = .ok p.publicKey := readKey_text _ _
  unfold toPeer
  rw [hid, hdevice, hprivate, hpublic]
  simp only [bind, Except.bind, readPresharedKey_toRow]
  rfl

theorem toPeers_toRow (ps : List Peer) : toPeers (ps.map Peer.toRow) = .ok (ps.map Peer.stored) := by
  induction ps with
  | nil => rfl
  | cons p ps ih => rw [List.map_cons, toPeers, toPeer_toRow, ih, List.map_cons]

/-! ## Listing rows -/

theorem isOf_toRow (p : Peer) (id : Uuid) : p.toRow.isOf (some id) = decide (p.deviceId = id) := by
  rw [isOf, Option.all_some]
  exact decide_eq_decide.2 Uuid.text_inj

end PeerRow

section Sorting

variable {α β : Type}

theorem insertBy_map (le : β → β → Bool) (f : α → β) (a : α) (l : List α) :
    insertBy le (f a) (l.map f) = (insertBy (fun x y => le (f x) (f y)) a l).map f := by
  induction l with
  | nil => rfl
  | cons b l ih =>
    rw [List.map_cons, insertBy, insertBy]
    split
    · rfl
    · rw [ih, List.map_cons]

/-- Sorting what items are mapped to is sorting the items. -/
theorem sortBy_map (le : β → β → Bool) (f : α → β) (l : List α) :
    sortBy le (l.map f) = (sortBy (fun x y => le (f x) (f y)) l).map f := by
  induction l with
  | nil => rfl
  | cons a l ih => rw [List.map_cons, sortBy, ih, insertBy_map, sortBy]

end Sorting

/-- The listing of a device, out of the rows of peers: those that belong to it, in some order. -/
theorem PeerRow.select_ofDevice (id : Uuid) (ps : List Peer) :
    ∃ page, select (.ofDevice id) (ps.map Peer.toRow) = .ok page ∧
      page.items.Perm ((ps.filter fun p => p.deviceId = id).map Peer.stored) := by
  have hfits : (ps.map Peer.toRow).filter (fits (.ofDevice id))
      = (ps.filter fun p => p.deviceId = id).map Peer.toRow := by
    rw [List.filter_map]
    congr 1
    refine List.filter_congr fun p _ => ?_
    rw [Function.comp_apply, fits, show (PeerQuery.ofDevice id).device = some id from rfl, isOf_toRow]
    exact Bool.and_true _
  have hperm := sortBy_perm (fun x y => before (Peer.toRow x) (Peer.toRow y))
    (ps.filter fun p => p.deviceId = id)
  have hpage : page (.ofDevice id) (ps.map Peer.toRow) = .ofList ((sortBy (fun x y =>
      before (Peer.toRow x) (Peer.toRow y)) (ps.filter fun p => p.deviceId = id)).map Peer.toRow) 0 0 := by
    rw [page, hfits, sortBy_map]
    rfl
  unfold select
  simp only [hpage, Page.ofList, if_true, List.drop_zero, toPeers_toRow]
  exact ⟨_, rfl, hperm.map Peer.stored⟩

/-- The peers of a device are listed by the rows that belong to it, and by no other row. -/
theorem PeerRow.select_congr {rows rows' : List PeerRow} {id : Uuid}
    (h : rows.filter (isOf (some id)) = rows'.filter (isOf (some id))) :
    select (.ofDevice id) rows = select (.ofDevice id) rows' := by
  have hfits : fits (.ofDevice id) = isOf (some id) := funext fun r => Bool.and_true _
  have hpage : page (.ofDevice id) rows = page (.ofDevice id) rows' := by
    unfold page
    rw [hfits, h]
  unfold select
  rw [hpage]

end TunnelKeeper
