import TunnelKeeper.Proofs.Store.StateFile

/-!
# Rows known by how their identifiers are spelled

Opening a state file reads the identifiers of its rows, and a listing gives the peers as read; but a
row is found by the text of its identifier, and taken for one of a device by the text of the
device's. An identifier has many texts, of which a store writes one, and nothing keeps a file from
having two rows with one identifier. So a row that was read is found where some row spells its
identifier as a store does, and it is gone after a removal where no second row does (`reached_iff`).
-/

namespace TunnelKeeper

/-! ## Reading rows -/

namespace PeerRow

variable {rows : List PeerRow} {ps : List Peer} {r : PeerRow} {p : Peer} {d : Uuid}

theorem mem_toPeers (h : toPeers rows = .ok ps) : p ∈ ps ↔ ∃ r ∈ rows, r.toPeer = .ok p := by
  induction rows generalizing ps with
  | nil =>
    obtain rfl := Except.ok.inj h
    simp
  | cons r rows ih =>
    rw [toPeers] at h
    split at h
    · cases h
    · rename_i q hq
      split at h
      · cases h
      · rename_i qs hqs
        obtain rfl := Except.ok.inj h
        rw [List.mem_cons, ih hqs, List.exists_mem_cons_iff, hq, Except.ok.injEq, eq_comm]

/-- The device of a peer is read from its row. -/
theorem readId_deviceId (h : r.toPeer = .ok p) : readId r.deviceId = .ok p.deviceId := by
  simp only [toPeer, bind_eq_ok] at h
  obtain ⟨_, _, d, hd, _, _, _, _, _, _, hp⟩ := h
  obtain rfl := Except.ok.inj hp
  exact hd

theorem deviceId_of_spelled (h : r.toPeer = .ok p) (hd : r.deviceId = d.text) : p.deviceId = d := by
  have := readId_deviceId h
  rw [hd, readId_text] at this
  exact (Except.ok.inj this).symm

theorem isOf_some : r.isOf (some d) = decide (r.deviceId = d.text) := rfl

theorem fits_ofDevice : fits (.ofDevice d) r = decide (r.deviceId = d.text) :=
  Bool.and_true _

/-- No more rows count for a device than were read as of it, and as many if all of those spell the
device as a store does. -/
theorem count_read (h : toPeers rows = .ok ps) (d : Uuid) :
    count (some d) rows ≤ (ps.filter fun p => p.deviceId = d).length ∧
      (count (some d) rows = (ps.filter fun p => p.deviceId = d).length ↔
        ∀ r ∈ rows, ∀ p, r.toPeer = .ok p → p.deviceId = d → r.deviceId = d.text) := by
  unfold count
  induction rows generalizing ps with
  | nil =>
    obtain rfl := Except.ok.inj h
    simp
  | cons r rows ih =>
    rw [toPeers] at h
    split at h
    · cases h
    · rename_i q hq
      split at h
      · cases h
      · rename_i qs hqs
        obtain rfl := Except.ok.inj h
        obtain ⟨hle, hiff⟩ := ih hqs
        rw [List.forall_mem_cons, ← hiff]
        simp only [hq, Except.ok.injEq, forall_eq', List.filter_cons, isOf_some, decide_eq_true_eq]
        -- A row that spells the device is read as of it. A row that is read as of it without
        -- spelling it is missing from the count, and no other row can make up for it.
        by_cases hspelled : r.deviceId = d.text
        · simp [hspelled, deviceId_of_spelled hq hspelled, hle]
        · by_cases hd : q.deviceId = d
          · simp only [hspelled, hd, if_true, if_false, List.length_cons]
            refine ⟨by omega, iff_of_false (by omega) fun h => ?_⟩
            exact h.1 trivial
          · simp only [hspelled, hd, if_false, false_imp_iff, true_and]
            exact ⟨hle, trivial⟩

/-- The listing of a device has the peers of the rows that spell the device as a store does. -/
theorem select_ofDevice_readable (h : ∀ r ∈ rows, ∃ p, r.toPeer = .ok p) (d : Uuid) :
    ∃ page, select (.ofDevice d) rows = .ok page ∧
      ∀ p, p ∈ page.items ↔ ∃ r ∈ rows, r.deviceId = d.text ∧ r.toPeer = .ok p := by
  have hmem : ∀ r, r ∈ (page (.ofDevice d) rows).items ↔ r ∈ rows ∧ r.deviceId = d.text := by
    intro r
    show r ∈ (sortBy before (rows.filter (fits (.ofDevice d)))).drop 0 ↔ _
    rw [List.drop_zero, (sortBy_perm _ _).mem_iff, List.mem_filter, fits_ofDevice,
      decide_eq_true_eq]
  obtain ⟨ps, hps⟩ := toPeers_ok_iff.2 fun r hr => h r ((hmem r).1 hr).1
  refine ⟨⟨ps, (page (.ofDevice d) rows).total, (page (.ofDevice d) rows).hasNext⟩, ?_, fun p => ?_⟩
  · unfold select
    simp only [hps]
  · simp only [mem_toPeers hps, hmem, and_assoc]

end PeerRow

/-! ## Finding rows -/

theorem FilePlace.save_error {content : String} {f f' : FilePlace} {e : StoreError}
    (h : save content f = (.error e, f')) : ∃ reason, e = .backend reason := by
  unfold save at h
  split at h
  · exact ⟨_, (Except.error.inj (Prod.mk.inj h).1).symm⟩
  · split at h
    · exact ⟨_, (Except.error.inj (Prod.mk.inj h).1).symm⟩
    · split at h
      · exact ⟨_, (Except.error.inj (Prod.mk.inj h).1).symm⟩
      · cases h

/-- Removing the first item of a kind leaves none of the kind if there was no other. -/
theorem notMem_eraseP_iff {α : Type} {l : List α} {q : α → Bool} (h : ∃ a ∈ l, q a = true) :
    (∀ a ∈ l.eraseP q, ¬ q a = true) ↔ l.countP q = 1 := by
  obtain ⟨a, ha, hqa⟩ := h
  obtain ⟨b, l₁, l₂, hl₁, hqb, rfl, herase⟩ := List.exists_of_eraseP ha hqa
  rw [herase, List.countP_append, List.countP_cons_of_pos hqb, List.countP_eq_zero.2 hl₁,
    List.forall_mem_append, Nat.zero_add, Nat.add_eq_right, List.countP_eq_zero]
  exact and_iff_right hl₁

namespace FilePeers

variable {s s' : FilePeers} {id : Uuid}

/-- A row spells the identifier as a store does. -/
def Spelled (s : FilePeers) (id : Uuid) : Prop := ∃ r ∈ s.rows, r.id = id.text

theorem get_eq_notFound_iff : store.get s id = .error (.peerNotFound id) ↔ ¬ s.Spelled id := by
  simp only [store, Spelled]
  cases hf : s.rows.find? fun r => r.id = id.text with
  | none =>
    simp only [true_iff]
    rintro ⟨r, hr, he⟩
    exact absurd he (by simpa using List.find?_eq_none.1 hf r hr)
  | some r =>
    have hspelled : ∃ r ∈ s.rows, r.id = id.text :=
      ⟨r, List.mem_of_find?_eq_some hf, by simpa using List.find?_some hf⟩
    simp only [hspelled, not_true_eq_false, iff_false]
    cases r.toPeer with
    | error e => simp [Except.mapError]
    | ok p => simp [Except.mapError]

theorem get_ok_iff (h : Mirrored s) : (∃ p, store.get s id = .ok p) ↔ s.Spelled id := by
  constructor
  · rintro ⟨p, hp⟩
    by_contra hn
    rw [get_eq_notFound_iff.2 hn] at hp
    cases hp
  · rintro ⟨r, hr, he⟩
    have hsome : (s.rows.find? fun r => r.id = id.text).isSome = true :=
      List.find?_isSome.2 ⟨r, hr, decide_eq_true he⟩
    obtain ⟨r', hf⟩ := Option.isSome_iff_exists.1 hsome
    obtain ⟨p, hp⟩ := h.readable r' (List.mem_of_find?_eq_some hf)
    exact ⟨p, by simp only [store, hf, hp, Except.mapError]⟩

theorem position?_eq_none_iff : position? s.rows id = none ↔ ¬ s.Spelled id := by
  simp [position?, Spelled]

theorem add_eq_duplicate_iff {p : Peer} :
    (store.add p s).1 = .error (.duplicateId p.id) ↔ s.Spelled p.id := by
  show (store.change (.add p) s).1 = _ ↔ _
  rw [change_eq, ← not_iff_not, ← position?_eq_none_iff]
  cases hp : position? s.rows p.id with
  | some i => simp [commit, changed, hp]
  | none =>
    simp only [commit, changed, hp, iff_true]
    split
    · simp
    · rename_i hsave
      obtain ⟨reason, rfl⟩ := FilePlace.save_error hsave
      simp

theorem rows_of_remove_ok (h : store.remove id s = (.ok (), s')) :
    s.Spelled id ∧ s'.rows = s.rows.eraseP fun r => r.id = id.text := by
  change store.change (.remove id) s = (.ok (), s') at h
  rw [change_eq] at h
  have hc := commit_ok h
  rw [changed] at hc
  cases hp : position? s.rows id with
  | none => simp [hp] at hc
  | some i =>
    refine ⟨?_, ?_⟩
    · by_contra hn
      rw [position?_eq_none_iff.2 hn] at hp
      cases hp
    · rw [List.eraseP_eq_eraseIdx, show s.rows.findIdx? _ = some i from hp]
      simpa [hp] using hc.symm

/-- After a removal the identifier is not found, unless a second row spells it. -/
theorem get_removed_iff (h : store.remove id s = (.ok (), s')) :
    store.get s' id = .error (.peerNotFound id) ↔
      s.rows.countP (fun r => r.id = id.text) = 1 := by
  obtain ⟨⟨r, hr, he⟩, hrows⟩ := rows_of_remove_ok h
  rw [get_eq_notFound_iff, ← notMem_eraseP_iff ⟨r, hr, decide_eq_true he⟩, ← hrows]
  simp [Spelled]

/-- What becomes of a row that was read from a state file. It is found, and stands in the way of
another with its identifier, where a row spells the identifier as a store does; it is listed and
counted for its device where the rows of the device spell the device so; and it is not found after a
removal if exactly one row spells the identifier so. -/
theorem reached_iff {place : FilePlace} (hopen : FilePeers.openAt place = .ok s) :
    ∃ ps, PeerRow.toPeers s.rows = .ok ps ∧ ∀ p ∈ ps,
      ((∃ q, store.get s p.id = .ok q) ↔ ∃ r ∈ s.rows, r.id = p.id.text) ∧
      (∃ page, store.list s (.ofDevice p.deviceId) = .ok page ∧ (p ∈ page.items ↔
        ∃ r ∈ s.rows, r.deviceId = p.deviceId.text ∧ r.toPeer = .ok p)) ∧
      (∃ n, store.count s (some p.deviceId) = .ok n ∧
        (n = (ps.filter fun q => q.deviceId = p.deviceId).length ↔ ∀ r ∈ s.rows, ∀ q,
          r.toPeer = .ok q → q.deviceId = p.deviceId → r.deviceId = p.deviceId.text)) ∧
      (∀ q : Peer, q.id = p.id → ((store.add q s).1 = .error (.duplicateId p.id) ↔
        ∃ r ∈ s.rows, r.id = p.id.text)) ∧
      ∀ s', store.remove p.id s = (.ok (), s') →
        (store.get s' p.id = .error (.peerNotFound p.id) ↔
          s.rows.countP (fun r => r.id = p.id.text) = 1) := by
  have hm := mirrored_openAt hopen
  obtain ⟨ps, hps⟩ := PeerRow.toPeers_ok_iff.2 hm.readable
  refine ⟨ps, hps, fun p _ => ⟨get_ok_iff hm, ?_, ?_, ?_, fun _ => get_removed_iff⟩⟩
  · obtain ⟨page, hpage, hitems⟩ := PeerRow.select_ofDevice_readable hm.readable p.deviceId
    exact ⟨page, hpage, hitems p⟩
  · exact ⟨_, rfl, (PeerRow.count_read hps p.deviceId).2⟩
  · intro q hq
    rw [← hq]
    exact add_eq_duplicate_iff

end FilePeers

/-! ## A file of another hand -/

namespace Sample

open FilePeers

/-- A row that spells its identifier in capitals. -/
def capitalRow : PeerRow :=
  { (peer 0xab true ["10.0.0.2/32"]).toRow with id := "ABABABAB-ABAB-ABAB-ABAB-ABABABABABAB" }

/-- The row in capitals, and another row twice. -/
def foreignFile : FilePeers :=
  let rows := [capitalRow, (peer 1 true []).toRow, (peer 1 true []).toRow]
  ⟨rows, .ofEntry (.text (StateFile.write rows))⟩

theorem toPeer_capitalRow : capitalRow.toPeer = .ok (peer 0xab true ["10.0.0.2/32"]).stored := by
  decide +kernel

theorem openAt_foreignFile : FilePeers.openAt foreignFile.place = .ok foreignFile := by
  refine (mirrored_write fun r hr => ?_).openAt
  simp only [List.mem_cons, List.not_mem_nil, or_false] at hr
  rcases hr with rfl | rfl | rfl
  · exact ⟨_, toPeer_capitalRow⟩
  · exact ⟨_, PeerRow.toPeer_toRow _⟩
  · exact ⟨_, PeerRow.toPeer_toRow _⟩

/-- The row in capitals is listed but cannot be got, and the other is still got once removed. -/
theorem reached_iff_foreign :
    (¬ ∃ q, store.get foreignFile (uuid 0xab) = .ok q) ∧
      ∀ s', store.remove (uuid 1) foreignFile = (.ok (), s') →
        store.get s' (uuid 1) ≠ .error (.peerNotFound (uuid 1)) := by
  obtain ⟨ps, hps, h⟩ := reached_iff openAt_foreignFile
  have hcapital : (peer 0xab true ["10.0.0.2/32"]).stored ∈ ps :=
    (PeerRow.mem_toPeers hps).2 ⟨capitalRow, List.mem_cons_self, toPeer_capitalRow⟩
  have htwice : (peer 1 true []).stored ∈ ps := (PeerRow.mem_toPeers hps).2
    ⟨(peer 1 true []).toRow, .tail _ List.mem_cons_self, PeerRow.toPeer_toRow _⟩
  refine ⟨fun hget => ?_, fun s' hr hget => ?_⟩
  · revert hget
    rw [show uuid 0xab = (peer 0xab true ["10.0.0.2/32"]).stored.id from rfl, (h _ hcapital).1]
    decide +kernel
  · have := ((h _ htwice).2.2.2.2 s' hr).1 hget
    revert this
    decide +kernel

/-- A row of an opened file, of a peer that is not found and may be added once more. -/
theorem capitalRow_unreached :
    FilePeers.openAt foreignFile.place = .ok foreignFile ∧ capitalRow ∈ foreignFile.rows ∧
      capitalRow.toPeer = .ok (peer 0xab true ["10.0.0.2/32"]).stored ∧
      store.get foreignFile (uuid 0xab) = .error (.peerNotFound (uuid 0xab)) ∧
      (store.add (peer 0xab true []) foreignFile).1 = .ok () :=
  ⟨openAt_foreignFile, List.mem_cons_self, toPeer_capitalRow, by decide +kernel, by decide +kernel⟩

end Sample

end TunnelKeeper
