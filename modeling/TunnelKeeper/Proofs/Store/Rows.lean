import TunnelKeeper.Proofs.Peer.Conversion
import TunnelKeeper.Proofs.Store.StateFile

/-!
# Rows under identifiers

The stores keep a row for each peer, of any origin: it need not be in the form in which the stores
write rows. A peer is read from the row under its identifier, and an update writes this row and no other
(`PeerStore.Rowed`). In memory the identifier is that of the peer that the row is read as
(`MemoryPeers.OwnIds`), in a state file it is the text of the row.
-/

namespace TunnelKeeper

/-! ## Rows under identifiers -/

/-- A store that keeps rows, which are sound: a peer is read from the row under its identifier, and an
update writes that row and no other. -/
structure PeerStore.Rowed {σ : Type} (store : PeerStore σ) (row? : σ → Uuid → Option PeerRow) (Sound : σ → Prop) :
    Prop where
  get : ∀ {t id p}, Sound t → store.get t id = .ok p →
    p.id = id ∧ ∃ r, row? t id = some r ∧ r.toPeer = .ok p
  update : ∀ {t t' p}, store.update p t = (.ok (), t') →
    row? t' p.id = some p.toRow ∧ ∀ id, id ≠ p.id → row? t' id = row? t id

theorem mapError_eq_ok_iff {ε ε' α : Type} {x : Except ε α} {wrap : ε → ε'} {a : α} :
    x.mapError wrap = .ok a ↔ x = .ok a := by
  cases x with
  | error e => simp [Except.mapError]
  | ok b => simp [Except.mapError]

namespace MemoryPeers

variable {s s' : MemoryPeers} {id : Uuid} {row : PeerRow}

/-- Every row is under the identifier of its peer. -/
def OwnIds (s : MemoryPeers) : Prop := ∀ e ∈ s.entries, ∀ p, e.2.toPeer = .ok p → p.id = e.1

theorem lookup_replace (entries : List (Uuid × PeerRow)) (id other : Uuid) (row : PeerRow) :
    (entries.map fun e => if e.1 = id then (id, row) else e).lookup other
      = if other = id then (entries.lookup id).map fun _ => row else entries.lookup other := by
  induction entries with
  | nil => simp
  | cons e entries ih =>
    obtain ⟨k, r⟩ := e
    by_cases hk : k = id
    · subst hk
      by_cases ho : other = k
      · simp [ho]
      · simp [List.lookup_cons, ih, ho, beq_eq_false_iff_ne.2 ho]
    · by_cases ho : other = k
      · subst ho
        simp [hk]
      · have hother : (other == k) = false := beq_eq_false_iff_ne.2 ho
        have hid : (id == k) = false := beq_eq_false_iff_ne.2 (Ne.symm hk)
        simp [List.lookup_cons, ih, hk, hother, hid]

theorem mem_of_row? (h : s.row? id = some row) : (id, row) ∈ s.entries := by
  obtain ⟨before, after, heq, -⟩ := List.lookup_eq_some_iff.1 h
  rw [heq]
  exact List.mem_append_right _ List.mem_cons_self

theorem OwnIds.replace {p : Peer} (h : OwnIds s) (hp : row.toPeer = .ok p) :
    OwnIds (s.replace p.id row) := by
  intro e he q hq
  obtain ⟨e', he', rfl⟩ := List.mem_map.1 he
  by_cases hid : e'.1 = p.id
  · rw [if_pos hid] at hq ⊢
    rw [Except.ok.inj (hq.symm.trans hp)]
  · rw [if_neg hid] at hq ⊢
    exact h e' he' q hq

theorem OwnIds.put {p : Peer} (h : OwnIds s) (hp : row.toPeer = .ok p) :
    OwnIds (s.put p.id row) := by
  unfold MemoryPeers.put
  split
  · exact h.replace hp
  · intro e he q hq
    rcases List.mem_append.1 he with he | he
    · exact h e he q hq
    · obtain rfl := List.mem_singleton.1 he
      rw [Except.ok.inj (hq.symm.trans hp)]

/-- A store made of rows has them under the identifiers of their peers, however these are written. -/
theorem ownIds_ofRows {rows : List PeerRow} (h : ofRows rows = .ok s) : OwnIds s := by
  have hgo : ∀ t, OwnIds t → ofRows.go t rows = .ok s → OwnIds s := by
    clear h
    induction rows with
    | nil =>
      intro t ht h
      exact Except.ok.inj h ▸ ht
    | cons r rows ih =>
      intro t ht h
      rw [ofRows.go] at h
      cases hr : r.toPeer with
      | error e => simp [hr] at h
      | ok p =>
        simp only [hr] at h
        exact ih _ (ht.put hr) h
  exact hgo empty (List.forall_mem_nil _) h

/-- Whatever is asked of the store, the rows stay under the identifiers of their peers. -/
theorem OwnIds.change (h : OwnIds s) (c : PeerStore.Change) : OwnIds (store.change c s).2 := by
  have hrow : ∀ p : Peer, p.toRow.toPeer = .ok p.stored := PeerRow.toPeer_toRow
  cases c with
  | add p =>
    simp only [PeerStore.change, store]
    split
    · exact h
    · exact h.put (p := p.stored) (hrow p)
  | update p =>
    simp only [PeerStore.change, store]
    split
    · exact h.replace (p := p.stored) (hrow p)
    · exact h
  | remove id =>
    simp only [PeerStore.change, store]
    split
    · exact fun e he => h e (List.mem_of_mem_filter he)
    · exact h

theorem rowed : PeerStore.Rowed store row? OwnIds where
  get := by
    intro s id p hs h
    simp only [store] at h
    cases hr : s.row? id with
    | none => simp [hr] at h
    | some r =>
      simp only [hr] at h
      have hp := mapError_eq_ok_iff.1 h
      exact ⟨hs _ (mem_of_row? hr) p hp, r, rfl, hp⟩
  update := by
    intro s s' p h
    simp only [store] at h
    split at h
    · rename_i hsome
      obtain ⟨-, rfl⟩ := Prod.mk.inj h
      obtain ⟨r, hr⟩ := Option.isSome_iff_exists.1 hsome
      refine ⟨?_, fun id hid => ?_⟩
      · rw [row?, replace, lookup_replace, if_pos rfl, show s.entries.lookup p.id = _ from hr]
        rfl
      · rw [row?, replace, lookup_replace, if_neg hid]
        rfl
    · cases h

end MemoryPeers

section Positions

variable {α : Type} {l : List α} {f g : α → Bool} {a : α} {i : Nat}

/-- The first item of a kind, if another of the kind takes its place. -/
theorem find?_set (h : l.findIdx? f = some i) (ha : f a = true) : (l.set i a).find? f = some a := by
  induction l generalizing i with
  | nil => cases h
  | cons b l ih =>
    rw [List.findIdx?_cons] at h
    by_cases hb : f b = true
    · obtain rfl : 0 = i := by simpa [hb] using h
      rw [List.set_cons_zero, List.find?_cons_of_pos ha]
    · simp only [hb, Bool.false_eq_true, if_false, Option.map_eq_some_iff] at h
      obtain ⟨j, hj, rfl⟩ := h
      rw [List.set_cons_succ, List.find?_cons_of_neg hb, ih hj]

/-- No other item is found for it where another kind is looked for. -/
theorem find?_set_of_apart (h : l.findIdx? f = some i) (ha : g a = false)
    (hfg : ∀ b, f b = true → g b = false) : (l.set i a).find? g = l.find? g := by
  induction l generalizing i with
  | nil => cases h
  | cons b l ih =>
    rw [List.findIdx?_cons] at h
    by_cases hb : f b = true
    · obtain rfl : 0 = i := by simpa [hb] using h
      rw [List.set_cons_zero, List.find?_cons_of_neg (by simp [ha]),
        List.find?_cons_of_neg (by simp [hfg b hb])]
    · simp only [hb, Bool.false_eq_true, if_false, Option.map_eq_some_iff] at h
      obtain ⟨j, hj, rfl⟩ := h
      rw [List.set_cons_succ, List.find?_cons, List.find?_cons, ih hj]

end Positions

/-- A row that spells the identifier as a store does has the peer of this identifier. -/
theorem PeerRow.id_of_toPeer {r : PeerRow} {p : Peer} {id : Uuid} (h : r.toPeer = .ok p)
    (hid : r.id = id.text) : p.id = id := by
  obtain ⟨u, hu, htext⟩ := (toPeer_eq_ok_iff.1 h).2.id
  have hread := (readId_text id).symm.trans (readId_eq_ok_iff.2 (hid ▸ hu))
  exact (Uuid.text_inj.1 htext).trans (Except.ok.inj hread).symm

namespace FilePeers

/-- The first row that spells the identifier as a store does. -/
def row? (s : FilePeers) (id : Uuid) : Option PeerRow := s.rows.find? fun r => r.id = id.text

theorem rowed : PeerStore.Rowed store row? fun _ => True where
  get := by
    intro s id p _ h
    simp only [store] at h
    cases hr : s.rows.find? fun r => r.id = id.text with
    | none => simp [hr] at h
    | some r =>
      simp only [hr] at h
      have hp := mapError_eq_ok_iff.1 h
      exact ⟨PeerRow.id_of_toPeer hp (by simpa using List.find?_some hr), r, hr, hp⟩
  update := by
    intro s s' p h
    simp only [store] at h
    have hc := commit_ok h
    cases hi : position? s.rows p.id with
    | none => simp [hi] at hc
    | some i =>
      simp only [hi, Except.ok.injEq] at hc
      refine ⟨?_, fun id hid => ?_⟩
      · rw [row?, ← hc]
        exact find?_set hi (decide_eq_true rfl)
      · rw [row?, ← hc]
        refine find?_set_of_apart hi ?_ fun r hr => ?_
        · exact decide_eq_false fun he => hid (Uuid.text_inj.1 he).symm
        · rw [of_decide_eq_true hr]
          exact decide_eq_false fun he => hid (Uuid.text_inj.1 he).symm

end FilePeers

end TunnelKeeper
