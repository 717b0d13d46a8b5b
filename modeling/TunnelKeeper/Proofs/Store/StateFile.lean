import Mathlib.Logic.Relation
import TunnelKeeper.Proofs.Json.Text
import TunnelKeeper.Proofs.InMemory

/-!
# The state file is what the store has in memory

A row reads back from the JSON text that it is written as, whatever its texts are
(`PeerRow.ofJson?_toJson`), so a state file reads back as the rows that it was written for
(`StateFile.read?_write`). A change renames the new text into place before it counts: one that
succeeds has written the new rows (`entry_of_commit_ok`), one that fails has left the file as it was
(`entry_of_commit_error`). `Mirrored s` says that the file of `s` holds its rows, all of which can be
read; it is what opening a file gives and what every change keeps, so that at any point of a run
opening the file again gives the store as it is (`mirrors_memory`).
-/

namespace TunnelKeeper

/-! ## Records in JSON -/

namespace Members

variable {V α : Type} {m : Members V} {name : String} {v : V} {value : V → Option α} {a default : α}

theorem required?_eq (h : m.get? name = some v) (hv : value v = some a) :
    m.required? name value = some a := by
  rw [required?, h, Option.bind_some, hv]

theorem defaulted?_eq (h : m.get? name = some v) (hv : value v = some a) :
    m.defaulted? name default value = some a := by
  rw [defaulted?, h]
  exact hv

end Members

namespace Json

theorem list?_map {α : Type} {item : Json → Option α} {f : α → Json} {l : List α}
    (h : ∀ a ∈ l, item (f a) = some a) : list? item (.array (l.map f)) = some l := by
  show (l.map f).mapM item = some l
  induction l with
  | nil => rfl
  | cons a l ih =>
    rw [List.map_cons, List.mapM_cons, h a List.mem_cons_self,
      ih fun b hb => h b (List.mem_cons_of_mem _ hb)]
    rfl

theorem namedMembers?_named (members : List (String × Json)) :
    namedMembers? (named members) = some members := by
  unfold namedMembers?
  induction members with
  | nil => rfl
  | cons m members ih =>
    rw [named, List.map_cons, List.mapM_cons, ← named, ih]
    rfl

/-- A record that was written with known members, each once, has these members. -/
theorem members?_ofMembers {names : List String} {members : List (String × Json)}
    (hknown : ∀ m ∈ members, m.1 ∈ names) (hn : (members.map Prod.fst).Nodup) :
    (ofMembers members).members? names = some ⟨false, members⟩ := by
  have hfilter : (members.filter fun m => names.contains m.1) = members :=
    List.filter_eq_self.2 fun m hm => by simpa using hknown m hm
  show ((namedMembers? (named members)).bind fun members => _) = _
  rw [namedMembers?_named, Option.bind_some]
  simp only [hfilter]
  rw [if_pos hn]
  rfl

theorem nat?_ofNat {bound n : Nat} (h : n ≤ bound) : (ofNat n).nat? bound = some n := by
  rw [ofNat, nat?, Text.readDigits?_toDigits, Option.filter_some, if_pos (by simpa using h)]

end Json

/-! ## Rows in JSON -/

namespace PeerRow

theorem readsBack_texts (l : List String) : (Json.array (l.map .ofString)).ReadsBack :=
  Json.readsBack_array fun j hj => by
    obtain ⟨s, -, rfl⟩ := List.mem_map.1 hj
    exact Json.readsBack_ofString s

theorem readsBack_toJson (r : PeerRow) : r.toJson.ReadsBack := by
  refine Json.readsBack_ofMembers ?_
  cases r.presharedKey with
  | none =>
    simp [Json.readsBack_ofString, Json.readsBack_bool, Json.readsBack_ofNat, readsBack_texts]
  | some k =>
    simp [Json.readsBack_ofString, Json.readsBack_bool, Json.readsBack_ofNat, readsBack_texts]

theorem texts?_map (l : List String) : texts? (.array (l.map .ofString)) = some l :=
  Json.list?_map fun _ _ => rfl

theorem bind_eq_of_some {α β : Type} {x : Option α} {f : α → Option β} {a : α} {b : Option β}
    (hx : x = some a) (hf : f a = b) : (x >>= f) = b := by
  rw [hx]
  exact hf

/-- The members are those that `r` is written with. -/
structure WrittenAs (m : Members Json) (r : PeerRow) : Prop where
  id : m.get? "id" = some (.ofString r.id)
  deviceId : m.get? "device_id" = some (.ofString r.deviceId)
  privateKey : m.get? "private_key" = some (.ofString r.privateKey)
  publicKey : m.get? "public_key" = some (.ofString r.publicKey)
  hasPresharedKey : m.get? "has_preshared_key" = some (.bool r.hasPresharedKey)
  presharedKey : m.get? "preshared_key" = r.presharedKey.map .ofString
  allowedIps : m.get? "allowed_ips" = some (.array (r.allowedIps.map .ofString))
  dns : m.get? "dns" = some (.ofString r.dns)
  mtu : m.get? "mtu" = some (.ofNat r.mtu.toNat)
  keepalive : m.get? "persistent_keepalive_secs" = some (.ofNat r.keepaliveSeconds.toNat)
  name : m.get? "name" = some (.ofString r.name)
  email : m.get? "email" = some (.ofString r.email)
  description : m.get? "description" = some (.ofString r.description)
  tags : m.get? "tags" = some (.array (r.tags.map .ofString))
  isEnabled : m.get? "is_enabled" = some (.bool r.isEnabled)

theorem exists_members_toJson (r : PeerRow) :
    ∃ m, r.toJson.members? memberNames = some m ∧ WrittenAs m r := by
  unfold toJson
  cases hk : r.presharedKey with
  | none =>
    refine ⟨_, Json.members?_ofMembers (by simp [memberNames]) (by simp), ?_⟩
    constructor
    case presharedKey => rw [hk]; rfl
    all_goals rfl
  | some k =>
    refine ⟨_, Json.members?_ofMembers (by simp [memberNames]) (by simp), ?_⟩
    constructor
    case presharedKey => rw [hk]; rfl
    all_goals rfl

theorem WrittenAs.presharedKey_read {m : Members Json} {r : PeerRow} (h : WrittenAs m r) :
    m.defaulted? "preshared_key" none (Json.option? Json.string?) = some r.presharedKey := by
  rw [Members.defaulted?, h.presharedKey]
  cases r.presharedKey with
  | none => rfl
  | some k => rfl

theorem ofJson?_toJson (r : PeerRow) : ofJson? r.toJson = some r := by
  have hmtu : (Json.ofNat r.mtu.toNat).nat? 4294967295 = some r.mtu.toNat :=
    Json.nat?_ofNat (by have := r.mtu.toNat_lt; omega)
  have hkeepalive : (Json.ofNat r.keepaliveSeconds.toNat).nat? 18446744073709551615
      = some r.keepaliveSeconds.toNat :=
    Json.nat?_ofNat (by have := r.keepaliveSeconds.toNat_lt; omega)
  obtain ⟨m, hm, h⟩ := exists_members_toJson r
  unfold ofJson?
  refine bind_eq_of_some hm ?_
  refine bind_eq_of_some (Members.required?_eq h.id rfl) ?_
  refine bind_eq_of_some (Members.required?_eq h.deviceId rfl) ?_
  refine bind_eq_of_some (Members.required?_eq h.privateKey rfl) ?_
  refine bind_eq_of_some (Members.required?_eq h.publicKey rfl) ?_
  refine bind_eq_of_some (Members.required?_eq h.hasPresharedKey rfl) ?_
  refine bind_eq_of_some h.presharedKey_read ?_
  refine bind_eq_of_some (Members.required?_eq h.allowedIps (texts?_map _)) ?_
  refine bind_eq_of_some (Members.defaulted?_eq h.dns rfl) ?_
  refine bind_eq_of_some (Members.defaulted?_eq h.mtu hmtu) ?_
  refine bind_eq_of_some (Members.defaulted?_eq h.keepalive hkeepalive) ?_
  refine bind_eq_of_some (Members.defaulted?_eq h.name rfl) ?_
  refine bind_eq_of_some (Members.defaulted?_eq h.email rfl) ?_
  refine bind_eq_of_some (Members.defaulted?_eq h.description rfl) ?_
  refine bind_eq_of_some (Members.defaulted?_eq h.tags (texts?_map _)) ?_
  refine bind_eq_of_some (Members.required?_eq h.isEnabled rfl) ?_
  rw [UInt32.ofNat_toNat, UInt64.ofNat_toNat]
  rfl

end PeerRow

theorem StateFile.read?_write (rows : List PeerRow) : read? (write rows) = some rows := by
  have hback : (toJson rows).ReadsBack := by
    refine Json.readsBack_ofMembers fun m hm => ?_
    rw [List.mem_singleton.1 hm]
    refine Json.readsBack_array fun j hj => ?_
    obtain ⟨r, -, rfl⟩ := List.mem_map.1 hj
    exact r.readsBack_toJson
  have hrows : ofJson? (toJson rows) = some rows := by
    unfold ofJson? toJson
    rw [Json.members?_ofMembers (by simp) (by simp)]
    simp [Members.defaulted?, Members.get?, Json.list?_map fun r _ => PeerRow.ofJson?_toJson r]
  rw [read?, write, Json.parse?_text hback, Option.bind_some, hrows]

/-- Rows can be read if each of them can. -/
theorem PeerRow.toPeers_ok_iff {rows : List PeerRow} :
    (∃ ps, toPeers rows = .ok ps) ↔ ∀ r ∈ rows, ∃ p, r.toPeer = .ok p := by
  induction rows with
  | nil => exact ⟨fun _ r hr => absurd hr List.not_mem_nil, fun _ => ⟨[], rfl⟩⟩
  | cons r rows ih =>
    rw [List.forall_mem_cons, ← ih, toPeers]
    cases r.toPeer with
    | error e => simp
    | ok p =>
      cases toPeers rows with
      | error e => simp
      | ok ps => simp

/-! ## Changes -/

/-- What a store can be asked to change. -/
inductive PeerStore.Change
  | add (p : Peer)
  | update (p : Peer)
  | remove (id : Uuid)

def PeerStore.change {σ : Type} (store : PeerStore σ) : Change → Attempt StoreError σ Unit
  | .add p => store.add p
  | .update p => store.update p
  | .remove id => store.remove id

theorem FilePlace.entry_of_save_ok {content : String} {f f' : FilePlace}
    (h : save content f = (.ok (), f')) : f'.entry = .text content := by
  unfold save at h
  split at h
  · cases h
  · split at h
    · cases h
    · split at h
      · cases h
      · rw [← (Prod.mk.inj h).2]

theorem FilePlace.entry_of_save_error {content : String} {f f' : FilePlace} {e : StoreError}
    (h : save content f = (.error e, f')) : f'.entry = f.entry := by
  unfold save at h
  split at h
  · rw [← (Prod.mk.inj h).2]
  · split at h
    · rw [← (Prod.mk.inj h).2]
    · split at h
      · rw [← (Prod.mk.inj h).2]
      · cases h

namespace FilePeers

open PeerStore

variable {s s' : FilePeers} {c : Change}

theorem entry_of_commit_ok {change : List PeerRow → Except StoreError (List PeerRow)}
    (h : commit change s = (.ok (), s')) : s'.place.entry = .text (StateFile.write s'.rows) := by
  unfold commit at h
  split at h
  · cases h
  · split at h
    · rename_i hsave
      rw [← (Prod.mk.inj h).2]
      exact FilePlace.entry_of_save_ok hsave
    · cases h

theorem entry_of_commit_error {change : List PeerRow → Except StoreError (List PeerRow)}
    {e : StoreError} (h : commit change s = (.error e, s')) : s'.place.entry = s.place.entry := by
  unfold commit at h
  split at h
  · rw [← (Prod.mk.inj h).2]
  · split at h
    · cases h
    · rename_i hsave
      rw [← (Prod.mk.inj h).2]
      exact FilePlace.entry_of_save_error hsave

/-- The rows after a change, or why it cannot be made. -/
def changed (rows : List PeerRow) : Change → Except StoreError (List PeerRow)
  | .add p =>
    match position? rows p.id with
    | some _ => .error (.duplicateId p.id)
    | none => .ok (rows ++ [p.toRow])
  | .update p =>
    match position? rows p.id with
    | some i => .ok (rows.set i p.toRow)
    | none => .error (.peerNotFound p.id)
  | .remove id =>
    match position? rows id with
    | some i => .ok (rows.eraseIdx i)
    | none => .error (.peerNotFound id)

theorem change_eq (c : Change) : store.change c = commit fun rows => changed rows c := by
  cases c <;> rfl

/-- A change adds no row but that of a peer. -/
theorem mem_changed {rows rows' : List PeerRow} {r : PeerRow} (h : changed rows c = .ok rows')
    (hr : r ∈ rows') : r ∈ rows ∨ ∃ p : Peer, r = p.toRow := by
  cases c with
  | add p =>
    simp only [changed] at h
    split at h
    · cases h
    · obtain rfl := Except.ok.inj h
      rcases List.mem_append.1 hr with hr | hr
      · exact .inl hr
      · exact .inr ⟨p, List.mem_singleton.1 hr⟩
  | update p =>
    simp only [changed] at h
    split at h
    · obtain rfl := Except.ok.inj h
      exact (List.mem_or_eq_of_mem_set hr).imp_right fun he => ⟨p, he⟩
    · cases h
  | remove id =>
    simp only [changed] at h
    split at h
    · obtain rfl := Except.ok.inj h
      exact .inl (List.mem_of_mem_eraseIdx hr)
    · cases h

/-! ## Runs -/

/-- The file holds the rows, all of which can be read. -/
structure Mirrored (s : FilePeers) : Prop where
  file : rowsOf s.place.entry = .ok s.rows
  readable : ∀ r ∈ s.rows, ∃ p, r.toPeer = .ok p

theorem mirrored_openAt {place : FilePlace} (h : openAt place = .ok s) : Mirrored s := by
  unfold openAt at h
  split at h
  · cases h
  · rename_i rows hrows
    split at h
    · cases h
    · rename_i ps hps
      obtain rfl := Except.ok.inj h
      exact ⟨hrows, PeerRow.toPeers_ok_iff.1 ⟨ps, hps⟩⟩

/-- A file may be written for any rows that can be read. -/
theorem mirrored_write {rows : List PeerRow} (h : ∀ r ∈ rows, ∃ p, r.toPeer = .ok p) :
    Mirrored ⟨rows, .ofEntry (.text (StateFile.write rows))⟩ :=
  ⟨by rw [FilePlace.ofEntry, rowsOf, StateFile.read?_write], h⟩

/-- Opening the file again gives the store as it is. -/
theorem Mirrored.openAt (h : Mirrored s) : openAt s.place = .ok s := by
  obtain ⟨ps, hps⟩ := PeerRow.toPeers_ok_iff.2 h.readable
  rw [FilePeers.openAt, h.file]
  simp only [hps]

/-- The store where these steps of writing fail, with this text beside the file. -/
def under (s : FilePeers) (failing : List SaveStep) (beside : Option String) : FilePeers :=
  { s with place := { s.place with failing, beside } }

theorem Mirrored.under (h : Mirrored s) (failing : List SaveStep) (beside : Option String) :
    Mirrored (s.under failing beside) :=
  ⟨h.file, h.readable⟩

theorem Mirrored.change (h : Mirrored s) (c : Change) : Mirrored (store.change c s).2 := by
  rw [change_eq]
  cases hc : commit (fun rows => changed rows c) s with
  | mk r t =>
    cases r with
    | error e =>
      refine ⟨?_, ?_⟩
      · rw [entry_of_commit_error hc, commit_error hc]
        exact h.file
      · rw [commit_error hc]
        exact h.readable
    | ok u =>
      refine ⟨?_, fun r hr => ?_⟩
      · rw [entry_of_commit_ok hc, rowsOf, StateFile.read?_write]
      · rcases mem_changed (commit_ok hc) hr with hr | ⟨p, rfl⟩
        · exact h.readable r hr
        · exact ⟨p.stored, PeerRow.toPeer_toRow p⟩

/-- A change is asked for, whichever steps of writing fail and whatever lies beside the file. -/
inductive Step : FilePeers → FilePeers → Prop
  | change (s : FilePeers) (c : Change) (failing : List SaveStep) (beside : Option String) :
      Step s (store.change c (s.under failing beside)).2

theorem mirrored_of_run (h : Mirrored s) (hrun : Relation.ReflTransGen Step s s') :
    Mirrored s' := by
  induction hrun with
  | refl => exact h
  | tail _ hstep ih =>
    cases hstep with
    | change c failing beside => exact (ih.under failing beside).change c

/-- At any point of a run over a file that was opened, the file holds the rows in memory, and opening
it again gives the store as it is. Whatever is asked for next either makes its change of the rows and
writes them, or fails and leaves the rows and the file as they are. -/
theorem mirrors_memory {place : FilePlace} (hopen : FilePeers.openAt place = .ok s)
    (hrun : Relation.ReflTransGen Step s s') :
    rowsOf s'.place.entry = .ok s'.rows ∧ FilePeers.openAt s'.place = .ok s' ∧
      ∀ c failing beside r t, store.change c (s'.under failing beside) = (r, t) →
        (r = .ok () ∧ changed s'.rows c = .ok t.rows ∧
          t.place.entry = .text (StateFile.write t.rows)) ∨
        ((∃ e, r = .error e) ∧ t.rows = s'.rows ∧ t.place.entry = s'.place.entry) := by
  have h := mirrored_of_run (mirrored_openAt hopen) hrun
  refine ⟨h.file, h.openAt, fun c failing beside r t hc => ?_⟩
  rw [change_eq] at hc
  cases r with
  | ok u => exact .inl ⟨rfl, commit_ok hc, entry_of_commit_ok hc⟩
  | error e =>
    have hrows := commit_error hc
    have hentry := entry_of_commit_error hc
    exact .inr ⟨⟨e, rfl⟩, hrows, hentry⟩

end FilePeers

/-! ## A run in which a write fails -/

namespace Sample

open FilePeers

/-- A peer with a preshared key and a name that has to be escaped in JSON. -/
def quotedPeer : Peer :=
  { peer 1 true ["10.0.0.2/32"] with name := "\"a\\b\"\n", presharedKey := some (key 7) }

/-- A store with one peer, in its file. -/
def openedFile : FilePeers :=
  ⟨[quotedPeer.toRow], .ofEntry (.text (StateFile.write [quotedPeer.toRow]))⟩

/-- After a second peer was added, and the first could not be removed. -/
def keptFile : FilePeers :=
  (store.change (.remove (uuid 1))
    ((store.change (.add (peer 2 false [])) (openedFile.under [] none)).2.under [.rename] none)).2

theorem mirrors_memory_kept :
    rowsOf keptFile.place.entry = .ok [quotedPeer.toRow, (peer 2 false []).toRow] ∧
      FilePeers.openAt keptFile.place = .ok keptFile := by
  have hopen : FilePeers.openAt openedFile.place = .ok openedFile :=
    (mirrored_write (List.forall_mem_singleton.2 ⟨_, PeerRow.toPeer_toRow quotedPeer⟩)).openAt
  have hrows : keptFile.rows = [quotedPeer.toRow, (peer 2 false []).toRow] := by decide +kernel
  obtain ⟨hfile, hagain, -⟩ := mirrors_memory hopen
    (.tail (.single (.change openedFile (.add (peer 2 false [])) [] none))
      (.change _ (.remove (uuid 1)) [.rename] none))
  rw [← hrows]
  exact ⟨hfile, hagain⟩

end Sample

end TunnelKeeper
