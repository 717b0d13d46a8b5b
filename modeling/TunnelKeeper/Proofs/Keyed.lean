import Mathlib.Data.List.InsertIdx
import Mathlib.Data.List.Nodup

/-!
# Lists in which every item has its own key

What is done to such lists: an item is put in the place of the one with its key, or the one with a key
is dropped. Where keys differ an item is found under its key (`find?_of_mem`), and the changes are made
at the position where it is found (`set_findIdx?`, `eraseIdx_findIdx?`).
-/

namespace TunnelKeeper

namespace Keyed

variable {α κ : Type} [DecidableEq κ] {key : α → κ} {xs : List α} {x y : α} {k : κ} {i : Nat}

/-- The items `xs` with `x` in place of the one with its key. -/
def replaceIn (key : α → κ) (xs : List α) (x : α) : List α :=
  xs.map fun y => if key y = key x then x else y

/-- The items `xs` less the one with a key. -/
def dropFrom (key : α → κ) (xs : List α) (k : κ) : List α := xs.filter fun y => key y ≠ k

theorem map_replaceIn (key : α → κ) (xs : List α) (x : α) :
    (replaceIn key xs x).map key = xs.map key := by
  rw [replaceIn, List.map_map]
  refine List.map_congr_left fun y _ => ?_
  rw [Function.comp_apply]
  split
  · rename_i h
    exact h.symm
  · rfl

theorem mem_replaceIn (h : y ∈ replaceIn key xs x) : (y ∈ xs ∧ key y ≠ key x) ∨ y = x := by
  obtain ⟨z, hz, rfl⟩ := List.mem_map.1 h
  by_cases hk : key z = key x
  · exact .inr (if_pos hk)
  · rw [if_neg hk]
    exact .inl ⟨hz, hk⟩

theorem mem_replaceIn_self (hy : y ∈ xs) (hk : key y = key x) : x ∈ replaceIn key xs x :=
  List.mem_map.2 ⟨y, hy, if_pos hk⟩

theorem mem_replaceIn_of_ne (hy : y ∈ xs) (hk : key y ≠ key x) : y ∈ replaceIn key xs x :=
  List.mem_map.2 ⟨y, hy, if_neg hk⟩

theorem mem_dropFrom : y ∈ dropFrom key xs k ↔ y ∈ xs ∧ key y ≠ k := by
  simp [dropFrom]

theorem isSome_find? : (xs.find? fun y => key y = k).isSome = true ↔ k ∈ xs.map key := by
  simp only [List.find?_isSome, List.mem_map, decide_eq_true_eq]

/-! ## Keys that differ -/

section Nodup

variable (h : (xs.map key).Nodup)
include h

theorem nodup_replaceIn (x : α) : ((replaceIn key xs x).map key).Nodup := by
  rwa [map_replaceIn]

theorem nodup_dropFrom (k : κ) : ((dropFrom key xs k).map key).Nodup :=
  (List.filter_sublist.map key).nodup h

omit [DecidableEq κ] in
theorem nodup_append_singleton (hx : key x ∉ xs.map key) : ((xs ++ [x]).map key).Nodup := by
  rw [List.map_append, List.map_singleton, ← List.concat_eq_append]
  exact h.concat hx

end Nodup

theorem find?_of_mem (hn : (xs.map key).Nodup) (hx : x ∈ xs) :
    (xs.find? fun y => key y = key x) = some x := by
  cases hf : xs.find? fun y => key y = key x with
  | none => exact absurd (List.find?_eq_none.1 hf x hx) (by simp)
  | some y =>
    have hk : key y = key x := by simpa using List.find?_some hf
    rw [List.inj_on_of_nodup_map hn (List.mem_of_find?_eq_some hf) hx hk]

theorem set_findIdx? (hn : (xs.map key).Nodup)
    (h : (xs.findIdx? fun y => key y = key x) = some i) : xs.set i x = replaceIn key xs x := by
  induction xs generalizing i with
  | nil => simp at h
  | cons y xs ih =>
    rw [List.map_cons, List.nodup_cons] at hn
    rw [List.findIdx?_cons] at h
    rw [replaceIn, List.map_cons]
    by_cases hy : key y = key x
    · obtain rfl : 0 = i := by simpa [hy] using h
      rw [List.set_cons_zero, if_pos hy]
      congr 1
      refine (List.map_id xs).symm.trans (List.map_congr_left fun z hz => (if_neg ?_).symm)
      intro he
      exact hn.1 (hy.trans he.symm ▸ List.mem_map_of_mem hz)
    · simp only [decide_eq_false hy, Bool.false_eq_true, if_false, Option.map_eq_some_iff] at h
      obtain ⟨j, hj, rfl⟩ := h
      rw [List.set_cons_succ, if_neg hy, ih hn.2 hj, replaceIn]

theorem eraseIdx_findIdx? (hn : (xs.map key).Nodup)
    (h : (xs.findIdx? fun y => key y = k) = some i) : xs.eraseIdx i = dropFrom key xs k := by
  induction xs generalizing i with
  | nil => simp at h
  | cons y xs ih =>
    rw [List.map_cons, List.nodup_cons] at hn
    rw [List.findIdx?_cons] at h
    rw [dropFrom, List.filter_cons]
    by_cases hy : key y = k
    · obtain rfl : 0 = i := by simpa [hy] using h
      rw [List.eraseIdx_cons_zero, if_neg (by simpa using hy)]
      refine (List.filter_eq_self.2 fun z hz => ?_).symm
      rw [decide_eq_true_eq]
      intro he
      exact hn.1 (hy.trans he.symm ▸ List.mem_map_of_mem hz)
    · simp only [decide_eq_false hy, Bool.false_eq_true, if_false, Option.map_eq_some_iff] at h
      obtain ⟨j, hj, rfl⟩ := h
      rw [List.eraseIdx_cons_succ, if_pos (by simpa using hy), ih hn.2 hj, dropFrom]

end Keyed

end TunnelKeeper
