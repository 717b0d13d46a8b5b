import TunnelKeeper.Proofs.Store.Interchange

/-!
# Pages of a listing

A page of a list and what comes after the page are the list from where the page begins
(`Page.items_append_after`), and there is a next page exactly if something comes after
(`Page.hasNext_iff`). Over the rows of peers every query pages through one list: the peers that it asks
for, by name and then by identifier (`PeerRow.select_arranged`). A store that shows peers answers the
questions about them as the list of them does.
-/

namespace TunnelKeeper

/-! ## Pages of a list -/

namespace Page

variable {α β : Type}

theorem map_ofList (f : α → β) (l : List α) (skip limit : Nat) :
    (ofList l skip limit).map f = ofList (l.map f) skip limit := by
  unfold ofList Page.map
  split
  · simp
  · simp

/-- What comes after a page begins where the page ends. -/
theorem items_append_after (l : List α) (skip limit : Nat) :
    (ofList l skip limit).items ++ l.drop (skip + (ofList l skip limit).items.length)
      = l.drop skip := by
  have hprefix : (ofList l skip limit).items <+: l.drop skip := by
    unfold ofList
    split
    · exact List.prefix_rfl
    · exact List.take_prefix _ _
  rw [← List.drop_drop]
  exact List.prefix_iff_eq_append.1 hprefix

theorem mem_of_mem_items {l : List α} {skip limit : Nat} {a : α}
    (h : a ∈ (ofList l skip limit).items) : a ∈ l := by
  refine List.mem_of_mem_drop (i := skip) ?_
  rw [← items_append_after l skip limit]
  exact List.mem_append_left _ h

theorem hasNext_iff (l : List α) (skip limit : Nat) :
    (ofList l skip limit).hasNext = true ↔
      l.drop (skip + (ofList l skip limit).items.length) ≠ [] := by
  have hnext : (ofList l skip limit).hasNext
      = decide (skip + (ofList l skip limit).items.length < l.length) := rfl
  rw [hnext, decide_eq_true_eq, ne_eq, List.drop_eq_nil_iff, Nat.not_le]

/-- A page with room for an item is not empty, unless it begins after the last. -/
theorem items_ne_nil {l : List α} {skip limit : Nat} (hlimit : limit ≠ 0) (h : skip < l.length) :
    (ofList l skip limit).items ≠ [] := by
  simp only [ofList, if_neg hlimit, ne_eq, List.take_eq_nil_iff, List.drop_eq_nil_iff, not_or]
  omega

/-- What is left of a page of `l` if its items are changed. -/
theorem of_map_eq {f : α → β} {l : List β} {skip limit : Nat} {page : Page α}
    (h : page.map f = ofList l skip limit) :
    page.items.map f ++ l.drop (skip + page.items.length) = l.drop skip ∧
      page.total = l.length ∧
      (page.hasNext = true ↔ l.drop (skip + page.items.length) ≠ []) := by
  have hitems : page.items.map f = (ofList l skip limit).items := congrArg items h
  have hlength : page.items.length = (ofList l skip limit).items.length := by
    rw [← hitems, List.length_map]
  have hnext : page.hasNext = (ofList l skip limit).hasNext := congrArg hasNext h
  refine ⟨?_, congrArg total h, ?_⟩
  · rw [hitems, hlength, items_append_after]
  · rw [hnext, hlength, hasNext_iff]

end Page

/-! ## Peers in the order of a listing -/

/-- The peer comes first in a listing: by name, then by the text of the identifier. -/
def Peer.Precedes (a b : Peer) : Prop := a.name < b.name ∨ a.name = b.name ∧ a.id.text < b.id.text

namespace PeerQuery

/-- Whether the query asks for the peer. -/
def wants (q : PeerQuery) (p : Peer) : Bool :=
  (q.device.all fun id => p.deviceId = id)
    && Text.matchesSearch q.search [p.name, p.description, p.email]

/-- The peers that the query asks for, in the order of a listing and as they are stored. -/
def arrange (q : PeerQuery) (ps : List Peer) : List Peer :=
  (sortBy (fun a b => a.toRow.before b.toRow) (ps.filter q.wants)).map Peer.stored

theorem arrange_perm (q : PeerQuery) (ps : List Peer) :
    (q.arrange ps).Perm ((ps.filter q.wants).map Peer.stored) :=
  (sortBy_perm _ _).map Peer.stored

theorem pairwise_arrange (q : PeerQuery) {ps : List Peer} (h : (ps.map Peer.id).Nodup) :
    (q.arrange ps).Pairwise Peer.Precedes := by
  have hsorted : (sortBy (fun a b : Peer => a.toRow.before b.toRow) (ps.filter q.wants)).Pairwise
      fun a b => a.toRow.before b.toRow = true :=
    pairwise_sortBy (fun a b => PeerRow.before_total a.toRow b.toRow)
      (fun a b c => PeerRow.before_trans a.toRow b.toRow c.toRow) (ps.filter q.wants)
  have hids : ((sortBy (fun a b : Peer => a.toRow.before b.toRow) (ps.filter q.wants)).map
      Peer.id).Nodup :=
    ((sortBy_perm _ _).map Peer.id).nodup_iff.2 ((List.filter_sublist.map Peer.id).nodup h)
  rw [arrange, List.pairwise_map]
  refine (hsorted.and (List.pairwise_map.1 hids)).imp fun {a b} hab => ?_
  refine (PeerRow.before_iff.1 hab.1).imp_right fun ⟨hname, hid⟩ => ⟨hname, ?_⟩
  -- Peers with distinct identifiers differ in the texts of them too.
  exact String.not_le.1 fun hge => hab.2 (Uuid.text_inj.1 (String.le_antisymm hid hge))

theorem fits_toRow (q : PeerQuery) (p : Peer) : p.toRow.fits q = q.wants p := by
  rw [PeerRow.fits, wants]
  congr 1
  cases hd : q.device with
  | none => rfl
  | some id => rw [PeerRow.isOf_toRow, Option.all_some]

end PeerQuery

/-- Over the rows of peers, a query pages through the peers that it asks for. -/
theorem PeerRow.select_arranged (q : PeerQuery) (ps : List Peer) :
    select q (ps.map Peer.toRow) = .ok (.ofList (q.arrange ps) q.skip q.limit) := by
  have hfits : (ps.map Peer.toRow).filter (fits q) = (ps.filter q.wants).map Peer.toRow := by
    rw [List.filter_map]
    congr 1
    exact List.filter_congr fun p _ => q.fits_toRow p
  have hpage : page q (ps.map Peer.toRow) = (Page.ofList
      (sortBy (fun a b => a.toRow.before b.toRow) (ps.filter q.wants)) q.skip q.limit).map
        Peer.toRow := by
    rw [page, hfits, sortBy_map, Page.map_ofList]
  rw [select, hpage, PeerQuery.arrange, ← Page.map_ofList]
  simp only [Page.map, toPeers_toRow]

/-! ## Stores that show peers -/

/-- In the state `t` the store answers the questions about its peers as the list `ps` of them does. -/
structure PeerStore.Shows {σ : Type} (store : PeerStore σ) (t : σ) (ps : List Peer) : Prop where
  nodup : (ps.map Peer.id).Nodup
  get : ∀ id, store.get t id = Peer.listStore.get ps id
  list : ∀ q, store.list t q = Peer.listStore.list ps q

theorem MemoryPeers.Keeps.shows {s : MemoryPeers} {ps : List Peer} (h : Keeps s ps) :
    store.Shows s ps where
  nodup := h.nodup
  get id := PeerStore.Answer.peer.inj (simulates h (.get id)).1
  list q := PeerStore.Answer.page.inj (simulates h (.list q)).1

theorem FilePeers.Holds.shows {s : FilePeers} {ps : List Peer} (h : Holds s ps) :
    store.Shows s ps where
  nodup := h.nodup
  get id := by
    simp only [store, Peer.listStore, h.find?]
    cases ps.find? fun p => p.id = id with
    | none => rfl
    | some p => simp only [Option.map_some, PeerRow.toPeer_toRow, Except.mapError]
  list q := congrArg (PeerRow.select q) h.rows

end TunnelKeeper
