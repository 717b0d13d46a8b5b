import TunnelKeeper.Proofs.Store.Listing
import TunnelKeeper.Proofs.Store.StateFile

/-!
# Peers in memory and in a state file

`Peer.listStore` is a store whose state is the list of its peers. Peers in memory do what it does,
in whatever order the entries stand (`MemoryPeers.simulates`): no identifier has two entries, so an
entry is found at any place, and a listing sorts rows with distinct identifiers by a total order. A
state file that can be written does what it does as well (`FilePeers.simulates`). So both give the
same answers (`interchangeable`).
-/

namespace TunnelKeeper

variable {σ τ : Type}

/-! ## Asking a store -/

namespace PeerStore

/-- What a store can be asked. -/
inductive Call
  | change (c : Change)
  | get (id : Uuid)
  | list (q : PeerQuery)
  | count (device : Option Uuid)

/-- What a store answers. -/
inductive Answer
  | changed (r : Except StoreError Unit)
  | peer (r : Except StoreError Peer)
  | page (r : Except StoreError (Page Peer))
  | number (r : Except StoreError Nat)
  deriving DecidableEq

/-- The answer to a call, and the state after it. -/
def ask (store : PeerStore σ) (s : σ) : Call → Answer × σ
  | .change c => (.changed (store.change c s).1, (store.change c s).2)
  | .get id => (.peer (store.get s id), s)
  | .list q => (.page (store.list s q), s)
  | .count device => (.number (store.count s device), s)

/-- The answers to calls one after the other. -/
def answers (store : PeerStore σ) (s : σ) : List Call → List Answer
  | [] => []
  | c :: calls => (store.ask s c).1 :: answers store (store.ask s c).2 calls

/-- A store answers as another does, as long as their states are related. -/
def Simulates (store : PeerStore σ) (store' : PeerStore τ) (R : σ → τ → Prop) : Prop :=
  ∀ {s t}, R s t → ∀ c, (store.ask s c).1 = (store'.ask t c).1 ∧
    R (store.ask s c).2 (store'.ask t c).2

theorem Simulates.answers {store : PeerStore σ} {store' : PeerStore τ} {R : σ → τ → Prop}
    (h : store.Simulates store' R) {s : σ} {t : τ} (hst : R s t) (calls : List Call) :
    store.answers s calls = store'.answers t calls := by
  induction calls generalizing s t with
  | nil => rfl
  | cons c calls ih =>
    obtain ⟨hanswer, hnext⟩ := h hst c
    rw [PeerStore.answers, PeerStore.answers, hanswer, ih hnext]

end PeerStore

open PeerStore

/-! ## A list of peers -/

/-- Peers in a list, each identifier once. -/
def Peer.listStore : PeerStore (List Peer) where
  add p ps :=
    if p.id ∈ ps.map Peer.id then (.error (.duplicateId p.id), ps) else (.ok (), ps ++ [p])
  update p ps :=
    if p.id ∈ ps.map Peer.id then (.ok (), p.replaceIn ps) else (.error (.peerNotFound p.id), ps)
  remove id ps :=
    if id ∈ ps.map Peer.id then (.ok (), Peer.dropFrom ps id) else (.error (.peerNotFound id), ps)
  get ps id :=
    match ps.find? fun p => p.id = id with
    | some p => .ok p.stored
    | none => .error (.peerNotFound id)
  list ps q := PeerRow.select q (ps.map Peer.toRow)
  count ps device := .ok (PeerRow.count device (ps.map Peer.toRow))

theorem Peer.nodup_listStore {ps : List Peer} (h : (ps.map Peer.id).Nodup) (c : Change) :
    ((Peer.listStore.change c ps).2.map Peer.id).Nodup := by
  cases c with
  | add p =>
    simp only [change, listStore]
    split
    · exact h
    · rename_i hp
      exact Keyed.nodup_append_singleton h hp
  | update p =>
    simp only [change, listStore]
    split
    · exact Keyed.nodup_replaceIn h p
    · exact h
  | remove id =>
    simp only [change, listStore]
    split
    · exact Keyed.nodup_dropFrom h id
    · exact h

/-! ## Entries in any order -/

/-- Where no key has two entries, their order does not tell in a lookup. -/
theorem lookup_perm {α β : Type} [BEq α] [LawfulBEq α] {l l' : List (α × β)} (h : l.Perm l')
    (hn : (l.map Prod.fst).Nodup) (k : α) : l.lookup k = l'.lookup k := by
  induction h with
  | nil => rfl
  | cons e _ ih =>
    rw [List.map_cons, List.nodup_cons] at hn
    rw [List.lookup_cons, List.lookup_cons, ih hn.2]
  | swap a b l =>
    -- Entries that change places have different keys, so `k` is the key of one of them at most.
    obtain ⟨a, v⟩ := a
    obtain ⟨b, w⟩ := b
    have hne : b ≠ a := fun he => (List.nodup_cons.1 hn).1 (he ▸ List.mem_cons_self)
    simp only [List.lookup_cons]
    by_cases hb : k = b
    · simp [hb, beq_eq_false_iff_ne.2 hne]
    · simp [beq_eq_false_iff_ne.2 hb]
  | trans h _ ih ih' => exact (ih hn).trans (ih' ((h.map Prod.fst).nodup_iff.1 hn))

namespace PeerRow

variable {rows rows' : List PeerRow}

/-- Rows with distinct identifiers are sorted in one way. -/
theorem sortBy_before_perm (h : rows.Perm rows') (hn : (rows.map PeerRow.id).Nodup) :
    sortBy before rows = sortBy before rows' := by
  have hs := sortBy_perm before rows
  have hperm : (sortBy before rows).Perm (sortBy before rows') :=
    (hs.trans h).trans (sortBy_perm before rows').symm
  refine List.Perm.eq_of_pairwise ?_ (pairwise_sortBy before_total before_trans _)
    (pairwise_sortBy before_total before_trans _) hperm
  intro a b ha hb hab hba
  refine List.inj_on_of_nodup_map hn (hs.mem_iff.1 ha) (hs.mem_iff.1 (hperm.mem_iff.2 hb)) ?_
  rw [before_iff] at hab hba
  rcases hab with hab | ⟨hname, hab⟩
  · rcases hba with hba | ⟨hname, -⟩
    · exact absurd hba (String.lt_asymm hab)
    · exact absurd hab (hname ▸ String.lt_irrefl _)
  · rcases hba with hba | ⟨-, hba⟩
    · exact absurd hba (hname ▸ String.lt_irrefl _)
    · exact String.le_antisymm hab hba

theorem select_perm (h : rows.Perm rows') (hn : (rows.map PeerRow.id).Nodup) (q : PeerQuery) :
    select q rows = select q rows' := by
  have hpage : page q rows = page q rows' := by
    rw [page, page, sortBy_before_perm (h.filter _) ((List.filter_sublist.map PeerRow.id).nodup hn)]
  rw [select, select, hpage]

theorem count_perm (h : rows.Perm rows') (device : Option Uuid) :
    count device rows = count device rows' :=
  (h.filter _).length_eq

theorem nodup_id_toRow {ps : List Peer} (h : (ps.map Peer.id).Nodup) :
    ((ps.map Peer.toRow).map PeerRow.id).Nodup := by
  have htexts : (ps.map Peer.toRow).map PeerRow.id = (ps.map Peer.id).map Uuid.text := by
    rw [List.map_map, List.map_map]
    rfl
  rw [htexts]
  exact h.map fun _ _ => Uuid.text_inj.1

end PeerRow

namespace MemoryPeers

/-- The store has the rows of these peers, in any order. -/
structure Keeps (s : MemoryPeers) (ps : List Peer) : Prop where
  entries : s.entries.Perm (ps.map fun p => (p.id, p.toRow))
  nodup : (ps.map Peer.id).Nodup

variable {s t : MemoryPeers} {ps : List Peer}

theorem Keeps.reorder (h : Keeps s ps) (hst : s.entries.Perm t.entries) : Keeps t ps :=
  ⟨hst.symm.trans h.entries, h.nodup⟩

theorem Keeps.row? (h : Keeps s ps) (id : Uuid) :
    s.row? id = (ps.find? fun p => p.id = id).map Peer.toRow := by
  have hkeys : ((ps.map fun p => (p.id, p.toRow)).map Prod.fst).Nodup := by
    rw [List.map_map]
    exact h.nodup
  rw [MemoryPeers.row?, ← lookup_perm h.entries.symm hkeys, lookup_rows]

theorem Keeps.isSome_row? (h : Keeps s ps) (id : Uuid) :
    (s.row? id).isSome = true ↔ id ∈ ps.map Peer.id := by
  rw [h.row?, Option.isSome_map, Keyed.isSome_find?]

theorem Keeps.rows (h : Keeps s ps) : s.rows.Perm (ps.map Peer.toRow) := by
  have := h.entries.map Prod.snd
  rwa [List.map_map] at this

theorem Keeps.change (h : Keeps s ps) (c : Change) :
    (store.change c s).1 = (Peer.listStore.change c ps).1 ∧
      Keeps (store.change c s).2 (Peer.listStore.change c ps).2 := by
  have hn := Peer.nodup_listStore h.nodup c
  cases c with
  | add p =>
    simp only [PeerStore.change, store, Peer.listStore, h.isSome_row?] at hn ⊢
    split
    · exact ⟨rfl, h⟩
    · rename_i hp
      rw [if_neg hp] at hn
      refine ⟨rfl, ?_, hn⟩
      rw [put, if_neg (by rwa [h.isSome_row?]), List.map_append]
      exact h.entries.append_right _
  | update p =>
    simp only [PeerStore.change, store, Peer.listStore, h.isSome_row?] at hn ⊢
    split
    · rename_i hp
      rw [if_pos hp] at hn
      have hholds : Holds ⟨ps.map fun p => (p.id, p.toRow)⟩ ps := ⟨rfl, h.nodup⟩
      refine ⟨rfl, ?_, hn⟩
      rw [← (hholds.replace p).entries]
      exact h.entries.map _
    · exact ⟨rfl, h⟩
  | remove id =>
    simp only [PeerStore.change, store, Peer.listStore, h.isSome_row?] at hn ⊢
    split
    · rename_i hp
      rw [if_pos hp] at hn
      refine ⟨rfl, ?_, hn⟩
      rw [erase, Peer.dropFrom, Keyed.dropFrom]
      exact (h.entries.filter _).trans (List.filter_map ▸ .refl _)
    · exact ⟨rfl, h⟩

theorem simulates : store.Simulates Peer.listStore Keeps := by
  intro s ps h c
  cases c with
  | change c => exact ⟨congrArg Answer.changed (h.change c).1, (h.change c).2⟩
  | get id =>
    refine ⟨congrArg Answer.peer ?_, h⟩
    simp only [store, Peer.listStore, h.row?]
    cases ps.find? fun p => p.id = id with
    | none => rfl
    | some p => simp only [Option.map_some, PeerRow.toPeer_toRow, Except.mapError]
  | list q =>
    have hn : (s.rows.map PeerRow.id).Nodup :=
      (h.rows.map _).nodup_iff.2 (PeerRow.nodup_id_toRow h.nodup)
    exact ⟨congrArg Answer.page (PeerRow.select_perm h.rows hn q), h⟩
  | count device =>
    exact ⟨congrArg (Answer.number ∘ Except.ok) (PeerRow.count_perm h.rows device), h⟩

/-- What the store can answer to calls one after the other, if before each of them the entries may
come to stand in any order. -/
inductive Answers : MemoryPeers → List Call → List Answer → Prop
  | nil (s : MemoryPeers) : Answers s [] []
  | cons {s t : MemoryPeers} {c : Call} {calls : List Call} {answers : List Answer}
      (hst : s.entries.Perm t.entries) (hrest : Answers (store.ask t c).2 calls answers) :
      Answers s (c :: calls) ((store.ask t c).1 :: answers)

theorem answers_store (s : MemoryPeers) (calls : List Call) :
    Answers s calls (store.answers s calls) := by
  induction calls generalizing s with
  | nil => exact .nil s
  | cons c calls ih => exact .cons (.refl _) (ih _)

/-- The order of the entries does not tell in the answers. -/
theorem Keeps.answers (h : Keeps s ps) {calls : List Call} {answers : List Answer}
    (hanswers : Answers s calls answers) : answers = Peer.listStore.answers ps calls := by
  induction hanswers generalizing ps with
  | nil => rfl
  | @cons s t c calls answers hst _ ih =>
    obtain ⟨hanswer, hnext⟩ := simulates (h.reorder hst) c
    rw [PeerStore.answers, hanswer, ih hnext]

end MemoryPeers

/-! ## A state file that can be written -/

namespace FilePlace

/-- No step of writing fails. -/
structure Writable (f : FilePlace) : Prop where
  failing : f.failing = []
  entry : f.entry ≠ .unreadable

theorem Writable.save {f : FilePlace} (h : Writable f) (content : String) :
    FilePlace.save content f = (.ok (), { f with entry := .text content, beside := none }) := by
  simp [FilePlace.save, h.failing, h.entry]

end FilePlace

namespace FilePeers

/-- The store has the rows of these peers, and can write them. -/
structure Keeps (s : FilePeers) (ps : List Peer) : Prop where
  holds : Holds s ps
  place : s.place.Writable

variable {s : FilePeers} {ps : List Peer}

theorem Keeps.commit_ok (h : Keeps s ps) {change : List PeerRow → Except StoreError (List PeerRow)}
    {ps' : List Peer} (hc : change s.rows = .ok (ps'.map Peer.toRow))
    (hn : (ps'.map Peer.id).Nodup) :
    (commit change s).1 = .ok () ∧ Keeps (commit change s).2 ps' := by
  unfold commit
  rw [hc]
  simp only [h.place.save]
  exact ⟨trivial, ⟨rfl, hn⟩, h.place.failing, by simp⟩

theorem Keeps.commit_error (h : Keeps s ps)
    {change : List PeerRow → Except StoreError (List PeerRow)} {e : StoreError}
    (hc : change s.rows = .error e) :
    (commit change s).1 = .error e ∧ Keeps (commit change s).2 ps := by
  unfold commit
  rw [hc]
  exact ⟨rfl, h⟩

theorem Keeps.position?_eq_none (h : Keeps s ps) {id : Uuid} (hid : id ∉ ps.map Peer.id) :
    position? s.rows id = none := by
  rw [h.holds.rows, position?_rows, List.findIdx?_eq_none_iff]
  exact fun p hp => decide_eq_false fun he => hid (he ▸ List.mem_map_of_mem hp)

theorem Keeps.position?_eq_some (h : Keeps s ps) {id : Uuid} (hid : id ∈ ps.map Peer.id) :
    ∃ i, position? s.rows id = some i ∧ (ps.findIdx? fun p => p.id = id) = some i := by
  obtain ⟨p, hp, he⟩ := List.mem_map.1 hid
  cases hi : ps.findIdx? fun p => p.id = id with
  | none => exact absurd he (by simpa using List.findIdx?_eq_none_iff.1 hi p hp)
  | some i => exact ⟨i, by rw [h.holds.rows, position?_rows, hi], rfl⟩

theorem Keeps.change (h : Keeps s ps) (c : Change) :
    (store.change c s).1 = (Peer.listStore.change c ps).1 ∧
      Keeps (store.change c s).2 (Peer.listStore.change c ps).2 := by
  have hn := Peer.nodup_listStore h.holds.nodup c
  rw [change_eq]
  cases c with
  | add p =>
    simp only [PeerStore.change, Peer.listStore] at hn ⊢
    by_cases hp : p.id ∈ ps.map Peer.id
    · obtain ⟨i, hi, -⟩ := h.position?_eq_some hp
      rw [if_pos hp]
      exact h.commit_error (by rw [changed, hi])
    · rw [if_neg hp] at hn ⊢
      refine h.commit_ok ?_ hn
      rw [changed, h.position?_eq_none hp, h.holds.rows, List.map_append]
      rfl
  | update p =>
    simp only [PeerStore.change, Peer.listStore] at hn ⊢
    by_cases hp : p.id ∈ ps.map Peer.id
    · obtain ⟨i, hi, hfind⟩ := h.position?_eq_some hp
      rw [if_pos hp] at hn ⊢
      refine h.commit_ok ?_ hn
      rw [changed, hi, h.holds.rows, Peer.replaceIn, ← Keyed.set_findIdx? h.holds.nodup hfind,
        List.map_set]
    · rw [if_neg hp]
      exact h.commit_error (by rw [changed, h.position?_eq_none hp])
  | remove id =>
    simp only [PeerStore.change, Peer.listStore] at hn ⊢
    by_cases hp : id ∈ ps.map Peer.id
    · obtain ⟨i, hi, hfind⟩ := h.position?_eq_some hp
      rw [if_pos hp] at hn ⊢
      refine h.commit_ok ?_ hn
      rw [changed, hi, h.holds.rows, Peer.dropFrom, ← Keyed.eraseIdx_findIdx? h.holds.nodup hfind]
      exact congrArg Except.ok (List.eraseIdx_map _ _ _)
    · rw [if_neg hp]
      exact h.commit_error (by rw [changed, h.position?_eq_none hp])

theorem simulates : store.Simulates Peer.listStore Keeps := by
  intro s ps h c
  cases c with
  | change c => exact ⟨congrArg Answer.changed (h.change c).1, (h.change c).2⟩
  | get id =>
    refine ⟨congrArg Answer.peer ?_, h⟩
    simp only [store, Peer.listStore, h.holds.find?]
    cases ps.find? fun p => p.id = id with
    | none => rfl
    | some p => simp only [Option.map_some, PeerRow.toPeer_toRow, Except.mapError]
  | list q =>
    exact ⟨congrArg (Answer.page ∘ PeerRow.select q) h.holds.rows, h⟩
  | count device =>
    exact ⟨congrArg (Answer.number ∘ Except.ok ∘ PeerRow.count device) h.holds.rows, h⟩

end FilePeers

/-! ## Both stores -/

/-- Asked the same from the start, peers in memory and a state file that can be written answer the
same, in whatever order the entries in memory stand when they are asked. -/
theorem PeerStore.interchangeable {place : FilePlace} (hplace : place.Writable) (calls : List Call)
    (answers : List Answer) :
    MemoryPeers.Answers .empty calls answers ↔
      answers = FilePeers.store.answers ⟨[], place⟩ calls := by
  have hmemory : MemoryPeers.Keeps .empty [] := ⟨.refl _, List.nodup_nil⟩
  have hfile : FilePeers.Keeps ⟨[], place⟩ [] := ⟨⟨rfl, List.nodup_nil⟩, hplace⟩
  rw [FilePeers.simulates.answers hfile]
  constructor
  · exact hmemory.answers
  · rintro rfl
    rw [← MemoryPeers.simulates.answers hmemory]
    exact MemoryPeers.answers_store _ _

namespace Sample

/-- Two peers with one name are added, the second of them first, and listed one at a time. -/
def listedCalls : List Call :=
  [.change (.add (peer 2 true ["10.0.0.2/32"])), .change (.add (peer 1 true [])),
    .change (.add (peer 1 false [])), .list ⟨0, 1, some "PEER", some device.id⟩,
    .change (.remove (uuid 2)), .get (uuid 2), .count none]

theorem interchangeable_listed :
    (FilePlace.ofEntry .absent).Writable ∧
      MemoryPeers.Answers .empty listedCalls [.changed (.ok ()), .changed (.ok ()),
        .changed (.error (.duplicateId (uuid 1))), .page (.ok ⟨[(peer 1 true []).stored], 2, true⟩),
        .changed (.ok ()), .peer (.error (.peerNotFound (uuid 2))), .number (.ok 1)] := by
  have hplace : (FilePlace.ofEntry .absent).Writable := ⟨rfl, by decide⟩
  refine ⟨hplace, (interchangeable hplace _ _).2 ?_⟩
  decide +kernel

end Sample

end TunnelKeeper
