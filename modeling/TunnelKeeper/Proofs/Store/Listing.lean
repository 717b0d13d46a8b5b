import TunnelKeeper.Store.Memory
import TunnelKeeper.Store.StateFile

/-!
# The order of a listing

A store that lists the rows it has (`PeerStore.ListsRows`) lists them by name and then by identifier,
as the rows have them: `PeerRow.before` is a total order of rows, and sorting by a total order leaves
the items in it (`pairwise_sortBy`). So the peers of a page are in that order (`Peer.Arranged`).
-/

namespace TunnelKeeper

/-! ## Sorting -/

section Sorting

variable {α : Type} {le : α → α → Bool}
  (htotal : ∀ a b, le a b = true ∨ le b a = true)
  (htrans : ∀ a b c, le a b = true → le b c = true → le a c = true)
include htotal htrans

theorem pairwise_insertBy (a : α) {l : List α} (h : l.Pairwise fun a b => le a b = true) :
    (insertBy le a l).Pairwise fun a b => le a b = true := by
  induction l with
  | nil => exact List.pairwise_singleton _ _
  | cons b l ih =>
    rw [List.pairwise_cons] at h
    unfold insertBy
    by_cases hab : le a b = true
    · rw [if_pos hab, List.pairwise_cons, List.pairwise_cons]
      refine ⟨fun c hc => ?_, h⟩
      rcases List.mem_cons.1 hc with rfl | hc
      · exact hab
      · exact htrans a b c hab (h.1 c hc)
    · rw [if_neg hab, List.pairwise_cons]
      refine ⟨fun c hc => ?_, ih h.2⟩
      rcases List.mem_cons.1 ((insertBy_perm le a l).mem_iff.1 hc) with rfl | hc
      · exact (htotal c b).resolve_left hab
      · exact h.1 c hc

/-- Sorting by a total order leaves the items in it. -/
theorem pairwise_sortBy (l : List α) : (sortBy le l).Pairwise fun a b => le a b = true := by
  induction l with
  | nil => exact .nil
  | cons a l ih => exact pairwise_insertBy htotal htrans a ih

end Sorting

/-! ## Rows -/

namespace PeerRow

variable {a b c : PeerRow} {rows : List PeerRow} {ps : List Peer}

theorem before_iff : a.before b = true ↔ a.name < b.name ∨ a.name = b.name ∧ a.id ≤ b.id := by
  simp [before]

theorem before_total (a b : PeerRow) : a.before b = true ∨ b.before a = true := by
  rw [before_iff, before_iff]
  by_cases hab : a.name < b.name
  · exact .inl (.inl hab)
  by_cases hba : b.name < a.name
  · exact .inr (.inl hba)
  have hname : a.name = b.name :=
    String.le_antisymm (String.not_lt.1 hba) (String.not_lt.1 hab)
  exact (String.le_total a.id b.id).imp (fun h => .inr ⟨hname, h⟩) fun h => .inr ⟨hname.symm, h⟩

theorem before_trans (a b c : PeerRow) (hab : a.before b = true) (hbc : b.before c = true) :
    a.before c = true := by
  rw [before_iff] at hab hbc ⊢
  rcases hab with hab | ⟨hab, hid⟩
  · rcases hbc with hbc | ⟨hbc, -⟩
    · exact .inl (String.lt_trans hab hbc)
    · exact .inl (hbc ▸ hab)
  · rcases hbc with hbc | ⟨hbc, hid'⟩
    · exact .inl (hab ▸ hbc)
    · exact .inr ⟨hab.trans hbc, String.le_trans hid hid'⟩

end PeerRow

/-! ## Stores -/

/-- The peers are in the order of their rows: by name, then by identifier. -/
def Peer.Arranged (ps : List Peer) : Prop :=
  ∃ rows : List PeerRow, rows.Pairwise (fun a b => a.before b = true) ∧ PeerRow.toPeers rows = .ok ps

/-- A store that lists the rows that its states have, if anything. -/
def PeerStore.ListsRows {σ : Type} (store : PeerStore σ) (rows : σ → List PeerRow) : Prop :=
  ∀ s q page, store.list s q = .ok page → PeerRow.select q (rows s) = .ok page

theorem MemoryPeers.listsRows : PeerStore.ListsRows store rows := fun _ _ _ h => h

theorem FilePeers.listsRows : PeerStore.ListsRows store rows := fun _ _ _ h => h

/-- The peers of a listing are in its order. -/
theorem PeerRow.arranged_of_select {id : Uuid} {rows : List PeerRow} {page : Page Peer}
    (h : select (.ofDevice id) rows = .ok page) : Peer.Arranged page.items := by
  simp only [select] at h
  cases hp : toPeers (PeerRow.page (.ofDevice id) rows).items with
  | error e =>
    rw [hp] at h
    cases h
  | ok ps =>
    rw [hp] at h
    obtain rfl := Except.ok.inj h
    exact ⟨_, pairwise_sortBy before_total before_trans _, hp⟩

end TunnelKeeper
