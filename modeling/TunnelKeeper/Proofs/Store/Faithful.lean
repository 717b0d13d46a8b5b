import TunnelKeeper.Proofs.Peer.Stored
import TunnelKeeper.Proofs.Keyed
import TunnelKeeper.Store.Memory
import TunnelKeeper.Store.Refusing
import TunnelKeeper.Store.StateFile

/-!
# Stores that do what they say

`PeerStore.Faithful store Holds` says that a store works on a list of peers: `Holds s ps` ties a
state to the peers whose rows it has, an operation that succeeds makes its change of that list, and
one that fails makes none. When an operation fails is left open. Peers in memory, peers in a state
file, and either of them under orders to refuse are faithful.
-/

namespace TunnelKeeper

variable {σ δ : Type}

/-! ## What a store promises -/

/-- The peers `ps` with `p` in place of the one with its identifier. -/
abbrev Peer.replaceIn (ps : List Peer) (p : Peer) : List Peer := Keyed.replaceIn Peer.id ps p

/-- The peers `ps` less the one with an identifier. -/
abbrev Peer.dropFrom (ps : List Peer) (id : Uuid) : List Peer := Keyed.dropFrom Peer.id ps id

/-- A store whose states hold peers, each identifier once, changes them as it is asked to or not at
all. -/
structure PeerStore.Faithful (store : PeerStore σ) (Holds : σ → List Peer → Prop) : Prop where
  nodup : ∀ {s ps}, Holds s ps → (ps.map Peer.id).Nodup
  get : ∀ {s ps id p}, Holds s ps → store.get s id = .ok p → ∃ q ∈ ps, q.id = id ∧ p = q.stored
  list : ∀ {s ps id page}, Holds s ps → store.list s (.ofDevice id) = .ok page →
    page.items.Perm ((ps.filter fun p => p.deviceId = id).map Peer.stored)
  add_ok : ∀ {s s' ps p}, Holds s ps → store.add p s = (.ok (), s') → Holds s' (ps ++ [p])
  add_error : ∀ {s s' ps p e}, Holds s ps → store.add p s = (.error e, s') → Holds s' ps
  update_ok : ∀ {s s' ps p}, Holds s ps → store.update p s = (.ok (), s') →
    Holds s' (p.replaceIn ps)
  update_error : ∀ {s s' ps p e}, Holds s ps → store.update p s = (.error e, s') → Holds s' ps
  remove_ok : ∀ {s s' ps id}, Holds s ps → store.remove id s = (.ok (), s') →
    Holds s' (Peer.dropFrom ps id)
  remove_error : ∀ {s s' ps id e}, Holds s ps → store.remove id s = (.error e, s') → Holds s' ps

/-- A store of devices gives a device under its own identifier. -/
def DeviceStore.Keyed (store : DeviceStore δ) : Prop :=
  ∀ s id d, store.get s id = .ok d → d.id = id

theorem Peer.map_id_stored (ps : List Peer) : (ps.map Peer.stored).map Peer.id = ps.map Peer.id :=
  List.map_map.trans (List.map_congr_left fun _ _ => rfl)

/-- No two peers of a listing have one identifier. -/
theorem PeerStore.Faithful.nodup_listing {store : PeerStore σ} {Holds : σ → List Peer → Prop}
    (hs : store.Faithful Holds) {s : σ} {ps : List Peer} {id : Uuid} {page : Page Peer}
    (h : Holds s ps) (hl : store.list s (.ofDevice id) = .ok page) :
    (page.items.map Peer.id).Nodup := by
  rw [((hs.list h hl).map Peer.id).nodup_iff, Peer.map_id_stored]
  exact (List.filter_sublist.map Peer.id).nodup (hs.nodup h)

/-! ## Peers in memory -/

namespace MemoryPeers

/-- The store has the rows of these peers. -/
structure Holds (s : MemoryPeers) (ps : List Peer) : Prop where
  entries : s.entries = ps.map fun p => (p.id, p.toRow)
  nodup : (ps.map Peer.id).Nodup

variable {s : MemoryPeers} {ps : List Peer}

theorem lookup_rows (ps : List Peer) (id : Uuid) :
    (ps.map fun p => (p.id, p.toRow)).lookup id = (ps.find? fun p => p.id = id).map Peer.toRow := by
  induction ps with
  | nil => rfl
  | cons p ps ih =>
    rw [List.map_cons, List.lookup_cons, List.find?_cons]
    by_cases h : p.id = id
    · simp [h]
    · rw [beq_eq_false_iff_ne.2 (Ne.symm h)]
      simpa [h] using ih

theorem Holds.row? (h : Holds s ps) (id : Uuid) :
    s.row? id = (ps.find? fun p => p.id = id).map Peer.toRow := by
  rw [MemoryPeers.row?, h.entries, lookup_rows]

theorem Holds.isSome_row? (h : Holds s ps) (id : Uuid) :
    (s.row? id).isSome = true ↔ id ∈ ps.map Peer.id := by
  rw [h.row?, Option.isSome_map, Keyed.isSome_find?]

theorem Holds.rows (h : Holds s ps) : s.rows = ps.map Peer.toRow := by
  rw [MemoryPeers.rows, h.entries, List.map_map]
  rfl

theorem Holds.replace (h : Holds s ps) (p : Peer) :
    Holds (s.replace p.id p.toRow) (p.replaceIn ps) where
  entries := by
    rw [MemoryPeers.replace, h.entries, Peer.replaceIn, Keyed.replaceIn, List.map_map, List.map_map]
    refine List.map_congr_left fun q _ => ?_
    simp only [Function.comp_apply]
    split
    · rfl
    · rfl
  nodup := Keyed.nodup_replaceIn h.nodup p

theorem faithful : PeerStore.Faithful store Holds where
  nodup := Holds.nodup
  get := by
    intro s ps id p h hg
    simp only [store, h.row?] at hg
    cases hf : ps.find? fun p => p.id = id with
    | none => simp [hf] at hg
    | some q =>
      simp only [hf, Option.map_some, PeerRow.toPeer_toRow, Except.mapError] at hg
      exact ⟨q, List.mem_of_find?_eq_some hf, by simpa using List.find?_some hf,
        (Except.ok.inj hg).symm⟩
  list := by
    intro s ps id page h hl
    obtain ⟨page', hpage, hperm⟩ := PeerRow.select_ofDevice id ps
    simp only [store, h.rows, hpage, Except.ok.injEq] at hl
    rwa [← hl]
  add_ok := by
    intro s s' ps p h ha
    simp only [store] at ha
    split at ha
    · cases ha
    · rename_i hrow
      obtain ⟨-, rfl⟩ := Prod.mk.inj ha
      rw [h.isSome_row?] at hrow
      refine ⟨?_, Keyed.nodup_append_singleton h.nodup hrow⟩
      rw [put, if_neg (by rwa [h.isSome_row?]), h.entries, List.map_append]
      rfl
  add_error := by
    intro s s' ps p e h ha
    simp only [store] at ha
    split at ha
    · rwa [← (Prod.mk.inj ha).2]
    · cases ha
  update_ok := by
    intro s s' ps p h hu
    simp only [store] at hu
    split at hu
    · rw [← (Prod.mk.inj hu).2]
      exact h.replace p
    · cases hu
  update_error := by
    intro s s' ps p e h hu
    simp only [store] at hu
    split at hu
    · cases hu
    · rwa [← (Prod.mk.inj hu).2]
  remove_ok := by
    intro s s' ps id h hr
    simp only [store] at hr
    split at hr
    · rw [← (Prod.mk.inj hr).2]
      refine ⟨?_, Keyed.nodup_dropFrom h.nodup id⟩
      rw [erase, h.entries, List.filter_map]
      rfl
    · cases hr
  remove_error := by
    intro s s' ps id e h hr
    simp only [store] at hr
    split at hr
    · cases hr
    · rwa [← (Prod.mk.inj hr).2]

end MemoryPeers

theorem MemoryDevices.keyed : DeviceStore.Keyed store := by
  intro s id d h
  simp only [store] at h
  cases hf : s.get? id with
  | none => simp [hf] at h
  | some d' =>
    simp only [hf, Except.ok.injEq] at h
    have := List.find?_some hf
    rw [← h]
    simpa using this

/-! ## Peers in a state file -/

namespace FilePeers

/-- The store has the rows of these peers in memory. -/
structure Holds (s : FilePeers) (ps : List Peer) : Prop where
  rows : s.rows = ps.map Peer.toRow
  nodup : (ps.map Peer.id).Nodup

variable {s s' : FilePeers} {ps : List Peer}

/-- A change that is made is one that the rows allow. -/
theorem commit_ok {change : List PeerRow → Except StoreError (List PeerRow)}
    (h : commit change s = (.ok (), s')) : change s.rows = .ok s'.rows := by
  unfold commit at h
  cases hc : change s.rows with
  | error e => simp [hc] at h
  | ok rows =>
    simp only [hc] at h
    split at h
    · rw [← (Prod.mk.inj h).2]
    · cases h

theorem commit_error {change : List PeerRow → Except StoreError (List PeerRow)} {e : StoreError}
    (h : commit change s = (.error e, s')) : s'.rows = s.rows := by
  unfold commit at h
  cases hc : change s.rows with
  | error e' =>
    simp only [hc] at h
    rw [← (Prod.mk.inj h).2]
  | ok rows =>
    simp only [hc] at h
    split at h
    · cases h
    · rw [← (Prod.mk.inj h).2]

theorem Holds.of_commit_error {change : List PeerRow → Except StoreError (List PeerRow)}
    {e : StoreError} (h : Holds s ps) (hc : commit change s = (.error e, s')) : Holds s' ps :=
  ⟨(commit_error hc).trans h.rows, h.nodup⟩

theorem Holds.find? (h : Holds s ps) (id : Uuid) :
    (s.rows.find? fun r => r.id = id.text) = (ps.find? fun p => p.id = id).map Peer.toRow := by
  rw [h.rows, List.find?_map]
  congr 2
  funext p
  exact decide_eq_decide.2 Uuid.text_inj

/-- The position of a row among those of peers. -/
theorem position?_rows (ps : List Peer) (id : Uuid) :
    position? (ps.map Peer.toRow) id = ps.findIdx? fun p => p.id = id := by
  rw [position?, List.findIdx?_map]
  congr 1
  funext p
  exact decide_eq_decide.2 Uuid.text_inj

theorem faithful : PeerStore.Faithful store Holds where
  nodup := Holds.nodup
  get := by
    intro s ps id p h hg
    simp only [store, h.find?] at hg
    cases hf : ps.find? fun p => p.id = id with
    | none => simp [hf] at hg
    | some q =>
      simp only [hf, Option.map_some, PeerRow.toPeer_toRow, Except.mapError] at hg
      exact ⟨q, List.mem_of_find?_eq_some hf, by simpa using List.find?_some hf,
        (Except.ok.inj hg).symm⟩
  list := by
    intro s ps id page h hl
    obtain ⟨page', hpage, hperm⟩ := PeerRow.select_ofDevice id ps
    simp only [store, h.rows, hpage, Except.ok.injEq] at hl
    rwa [← hl]
  add_ok := by
    intro s s' ps p h ha
    simp only [store] at ha
    have hc := commit_ok ha
    rw [h.rows, position?_rows] at hc
    cases hi : ps.findIdx? fun q => q.id = p.id with
    | some i => simp [hi] at hc
    | none =>
      simp only [hi, Except.ok.injEq] at hc
      refine ⟨by rw [← hc, List.map_append]; rfl, Keyed.nodup_append_singleton h.nodup ?_⟩
      intro hmem
      obtain ⟨q, hq, he⟩ := List.mem_map.1 hmem
      exact absurd he (by simpa using List.findIdx?_eq_none_iff.1 hi q hq)
  add_error := by
    intro s s' ps p e h ha
    simp only [store] at ha
    exact h.of_commit_error ha
  update_ok := by
    intro s s' ps p h hu
    simp only [store] at hu
    have hc := commit_ok hu
    rw [h.rows, position?_rows] at hc
    cases hi : ps.findIdx? fun q => q.id = p.id with
    | none => simp [hi] at hc
    | some i =>
      simp only [hi, Except.ok.injEq] at hc
      refine ⟨?_, Keyed.nodup_replaceIn h.nodup p⟩
      rw [← hc, ← List.map_set, Keyed.set_findIdx? h.nodup hi]
  update_error := by
    intro s s' ps p e h hu
    simp only [store] at hu
    exact h.of_commit_error hu
  remove_ok := by
    intro s s' ps id h hr
    simp only [store] at hr
    have hc := commit_ok hr
    rw [h.rows, position?_rows] at hc
    cases hi : ps.findIdx? fun q => q.id = id with
    | none => simp [hi] at hc
    | some i =>
      simp only [hi, Except.ok.injEq] at hc
      refine ⟨?_, Keyed.nodup_dropFrom h.nodup id⟩
      rw [← hc, List.eraseIdx_map, Keyed.eraseIdx_findIdx? h.nodup hi]
  remove_error := by
    intro s s' ps id e h hr
    simp only [store] at hr
    exact h.of_commit_error hr

end FilePeers

/-! ## Stores under orders to refuse -/

namespace Refusing

variable {α : Type} {s s' : Refusing σ}

theorem change_ok {operation : StoreOperation} {x : Attempt StoreError σ α} {a : α}
    (h : change operation x s = (.ok a, s')) : x s.inner = (.ok a, s'.inner) := by
  unfold change at h
  split at h
  · cases h
  · obtain ⟨h1, rfl⟩ := Prod.mk.inj h
    exact Prod.ext h1 rfl

/-- A change that fails was refused, or failed in the store itself: what both leave is left. -/
theorem change_kept {operation : StoreOperation} {x : Attempt StoreError σ α} {e : StoreError}
    {P : σ → Prop} (h : P s.inner) (hx : ∀ {t}, x s.inner = (.error e, t) → P t)
    (hc : change operation x s = (.error e, s')) : P s'.inner := by
  unfold change at hc
  split at hc
  · rwa [← (Prod.mk.inj hc).2]
  · obtain ⟨h1, rfl⟩ := Prod.mk.inj hc
    exact hx (Prod.ext h1 rfl)

theorem query_ok {operation : StoreOperation} {x : σ → Except StoreError α} {a : α}
    (h : query operation s x = .ok a) : x s.inner = .ok a := by
  unfold query at h
  split at h
  · cases h
  · exact h

theorem faithful {store : PeerStore σ} {Holds : σ → List Peer → Prop}
    (hs : store.Faithful Holds) : (peers store).Faithful fun s ps => Holds s.inner ps where
  nodup := hs.nodup
  get := by
    intro s ps id p h hg
    simp only [peers] at hg
    exact hs.get h (query_ok hg)
  list := by
    intro s ps id page h hl
    simp only [peers] at hl
    exact hs.list h (query_ok hl)
  add_ok := fun h ha => hs.add_ok h (change_ok ha)
  add_error := fun h ha => change_kept h (hs.add_error h) ha
  update_ok := fun h hu => hs.update_ok h (change_ok hu)
  update_error := fun h hu => change_kept h (hs.update_error h) hu
  remove_ok := fun h hr => hs.remove_ok h (change_ok hr)
  remove_error := fun h hr => change_kept h (hs.remove_error h) hr

theorem keyed {store : DeviceStore δ} (hs : store.Keyed) : (devices store).Keyed := by
  intro s id d h
  simp only [devices] at h
  exact hs s.inner id d (query_ok h)

end Refusing

end TunnelKeeper
