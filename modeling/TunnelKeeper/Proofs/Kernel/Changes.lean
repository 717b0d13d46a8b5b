import Mathlib.Data.List.Nodup
import TunnelKeeper.Kernel.Changes

/-!
# What a batch of changes does to the peers of an interface

Changes are made one after another, but a batch that concerns every key once (`Applicable`) can be
read at a glance: it takes out the peers it removes and adds those it installs, and leaves every other
peer as it is (`Applicable.applyAll_eq`). Of an arbitrary batch, `mem_applyAll` says where a peer that
is there afterwards comes from.
-/

namespace TunnelKeeper.PeerChange

variable {c : PeerChange} {cs : List PeerChange} {k : KernelPeer} {peers : List KernelPeer}

/-! ## One change -/

/-- A removal takes the peer with its key out. -/
theorem apply_of_remove (hc : c.remove = true) (hn : (peers.map KernelPeer.publicKey).Nodup) :
    c.apply peers = peers.filter fun k => k.publicKey ≠ c.publicKey := by
  induction peers with
  | nil => simp [apply, hc]
  | cons p ps ih =>
    rw [List.map_cons, List.nodup_cons] at hn
    rw [apply, List.filter_cons]
    by_cases hp : p.publicKey = c.publicKey
    · rw [if_pos hp, if_pos hc, if_neg (by simpa using hp)]
      refine (List.filter_eq_self.2 fun q hq => ?_).symm
      rw [decide_eq_true_eq]
      intro he
      exact hn.1 (hp.trans he.symm ▸ List.mem_map_of_mem hq)
    · rw [if_neg hp, if_pos (by simpa using hp), ih hn.2]

/-- The peer that a change makes where there is none with its key. -/
def installed (c : PeerChange) : KernelPeer := c.applyTo (KernelPeer.new c.publicKey)

@[simp] theorem publicKey_installed (c : PeerChange) : c.installed.publicKey = c.publicKey := rfl

/-- A change for a key that is not there adds a peer. -/
theorem apply_of_absent (hr : c.remove = false) (hu : c.updateOnly = false)
    (h : c.publicKey ∉ peers.map KernelPeer.publicKey) : c.apply peers = peers ++ [c.installed] := by
  induction peers with
  | nil => simp [apply, hr, hu, installed]
  | cons p ps ih =>
    rw [List.map_cons, List.mem_cons, not_or] at h
    rw [apply, if_neg (Ne.symm h.1), ih h.2, List.cons_append]

/-- A peer that is there after a change was there before, or is one that the change gave its
settings. -/
theorem mem_apply (h : k ∈ c.apply peers) :
    k ∈ peers ∨ c.remove = false ∧ ∃ old, old.publicKey = c.publicKey ∧ k = c.applyTo old := by
  induction peers with
  | nil =>
    unfold apply at h
    split at h
    · simp at h
    · rename_i hc
      rw [Bool.or_eq_true, not_or] at hc
      exact .inr ⟨by simpa using hc.1, KernelPeer.new c.publicKey, rfl, List.mem_singleton.1 h⟩
  | cons p ps ih =>
    unfold apply at h
    by_cases hp : p.publicKey = c.publicKey
    · rw [if_pos hp] at h
      split at h
      · exact .inl (List.mem_cons_of_mem _ h)
      · rename_i hr
        rcases List.mem_cons.1 h with rfl | h
        · exact .inr ⟨by simpa using hr, p, hp, rfl⟩
        · exact .inl (List.mem_cons_of_mem _ h)
    · rw [if_neg hp] at h
      rcases List.mem_cons.1 h with rfl | h
      · exact .inl List.mem_cons_self
      · rcases ih h with h | h
        · exact .inl (List.mem_cons_of_mem _ h)
        · exact .inr h

/-- A peer with another key stays as it is. -/
theorem mem_apply_of_ne (h : k.publicKey ≠ c.publicKey) : k ∈ c.apply peers ↔ k ∈ peers := by
  induction peers with
  | nil =>
    unfold apply
    split
    · rfl
    · have hne : k ≠ c.applyTo (KernelPeer.new c.publicKey) := fun he => h (by rw [he]; rfl)
      simp [hne]
  | cons p ps ih =>
    unfold apply
    by_cases hp : p.publicKey = c.publicKey
    · have hne : k ≠ p := fun he => h (he ▸ hp)
      have hne' : k ≠ c.applyTo p := fun he => h (by rw [he]; exact hp)
      rw [if_pos hp]
      split
      · simp [hne]
      · simp [hne, hne']
    · rw [if_neg hp, List.mem_cons, List.mem_cons, ih]

/-- Other keys than that of the change come and go with no change. -/
theorem mem_keys_apply {key : Key} (h : key ≠ c.publicKey) :
    key ∈ (c.apply peers).map KernelPeer.publicKey ↔ key ∈ peers.map KernelPeer.publicKey := by
  simp only [List.mem_map]
  constructor
  · rintro ⟨k, hk, rfl⟩
    exact ⟨k, (mem_apply_of_ne h).1 hk, rfl⟩
  · rintro ⟨k, hk, rfl⟩
    exact ⟨k, (mem_apply_of_ne h).2 hk, rfl⟩

/-- A change passes over peers with other keys. -/
theorem apply_append (h : c.publicKey ∉ peers.map KernelPeer.publicKey) (rest : List KernelPeer) :
    c.apply (peers ++ rest) = peers ++ c.apply rest := by
  induction peers with
  | nil => rfl
  | cons p ps ih =>
    rw [List.map_cons, List.mem_cons, not_or] at h
    rw [List.cons_append, apply, if_neg (Ne.symm h.1), ih h.2, List.cons_append]

/-- A change of a peer that may be there changes it there, and adds none. -/
theorem apply_of_updateOnly (hr : c.remove = false) (hu : c.updateOnly = true)
    (hn : (peers.map KernelPeer.publicKey).Nodup) :
    c.apply peers = peers.map fun k => if k.publicKey = c.publicKey then c.applyTo k else k := by
  induction peers with
  | nil => simp [apply, hu]
  | cons p ps ih =>
    rw [List.map_cons, List.nodup_cons] at hn
    rw [apply, List.map_cons]
    by_cases hp : p.publicKey = c.publicKey
    · rw [if_pos hp, if_neg (by simp [hr]), if_pos hp]
      congr 1
      refine ((List.map_id ps).symm.trans (List.map_congr_left fun q hq => (if_neg ?_).symm))
      intro he
      exact hn.1 (hp.trans he.symm ▸ List.mem_map_of_mem hq)
    · rw [if_neg hp, if_neg hp, ih hn.2]

/-- After a change every key is still there once. -/
theorem nodup_apply (c : PeerChange) (hn : (peers.map KernelPeer.publicKey).Nodup) :
    ((c.apply peers).map KernelPeer.publicKey).Nodup := by
  induction peers with
  | nil =>
    unfold apply
    split
    · exact List.nodup_nil
    · exact List.nodup_singleton _
  | cons p ps ih =>
    rw [List.map_cons, List.nodup_cons] at hn
    unfold apply
    by_cases hp : p.publicKey = c.publicKey
    · rw [if_pos hp]
      split
      · exact hn.2
      · exact List.nodup_cons.2 hn
    · rw [if_neg hp, List.map_cons, List.nodup_cons, mem_keys_apply hp]
      exact ⟨hn.1, ih hn.2⟩

/-! ## Batches -/

/-- Peers with other keys stay as they are. -/
theorem mem_applyAll_of_ne (h : ∀ c ∈ cs, k.publicKey ≠ c.publicKey) :
    k ∈ applyAll cs peers ↔ k ∈ peers := by
  induction cs generalizing peers with
  | nil => rfl
  | cons c cs ih =>
    rw [applyAll_cons, ih fun d hd => h d (List.mem_cons_of_mem _ hd),
      mem_apply_of_ne (h c List.mem_cons_self)]

/-- Changes pass over peers with other keys. -/
theorem applyAll_append (h : ∀ c ∈ cs, c.publicKey ∉ peers.map KernelPeer.publicKey)
    (rest : List KernelPeer) : applyAll cs (peers ++ rest) = peers ++ applyAll cs rest := by
  induction cs generalizing rest with
  | nil => rfl
  | cons c cs ih =>
    rw [applyAll_cons, apply_append (h c List.mem_cons_self),
      ih fun d hd => h d (List.mem_cons_of_mem _ hd), applyAll_cons]

theorem mem_keys_applyAll {key : Key} (h : ∀ c ∈ cs, key ≠ c.publicKey) :
    key ∈ (applyAll cs peers).map KernelPeer.publicKey ↔ key ∈ peers.map KernelPeer.publicKey := by
  induction cs generalizing peers with
  | nil => rfl
  | cons c cs ih =>
    rw [applyAll_cons, ih fun d hd => h d (List.mem_cons_of_mem _ hd),
      mem_keys_apply (h c List.mem_cons_self)]

theorem nodup_applyAll (hn : (peers.map KernelPeer.publicKey).Nodup) :
    ((applyAll cs peers).map KernelPeer.publicKey).Nodup := by
  induction cs generalizing peers with
  | nil => exact hn
  | cons c cs ih => exact ih (nodup_apply c hn)

theorem mem_applyAll (h : k ∈ applyAll cs peers) :
    k ∈ peers ∨
      ∃ c ∈ cs, c.remove = false ∧ ∃ old, old.publicKey = c.publicKey ∧ k = c.applyTo old := by
  induction cs generalizing peers with
  | nil => exact .inl h
  | cons c cs ih =>
    rw [applyAll_cons] at h
    rcases ih h with h | ⟨d, hd, hrest⟩
    · rcases mem_apply h with h | h
      · exact .inl h
      · exact .inr ⟨c, List.mem_cons_self, h⟩
    · exact .inr ⟨d, List.mem_cons_of_mem _ hd, hrest⟩

/-- Whether no change of the batch removes the peer. -/
def spares (cs : List PeerChange) (k : KernelPeer) : Bool :=
  cs.all fun c => !(c.remove && c.publicKey = k.publicKey)

theorem spares_cons (c : PeerChange) (cs : List PeerChange) (k : KernelPeer) :
    spares (c :: cs) k = (!(c.remove && c.publicKey = k.publicKey) && spares cs k) := rfl

/-- The batch concerns every key once, and installs only peers that are not there. -/
structure Applicable (cs : List PeerChange) (peers : List KernelPeer) : Prop where
  changes : (cs.map PeerChange.publicKey).Nodup
  kernel : (peers.map KernelPeer.publicKey).Nodup
  absent : ∀ c ∈ cs, c.remove = false →
    c.updateOnly = false ∧ c.publicKey ∉ peers.map KernelPeer.publicKey

namespace Applicable

theorem publicKey_ne (h : Applicable (c :: cs) peers) {d : PeerChange} (hd : d ∈ cs) :
    d.publicKey ≠ c.publicKey := by
  have hkeys := h.changes
  rw [List.map_cons, List.nodup_cons] at hkeys
  exact fun he => hkeys.1 (he ▸ List.mem_map_of_mem hd)

/-- The rest of the batch after a removal. -/
theorem of_removal (h : Applicable (c :: cs) peers) :
    Applicable cs (peers.filter fun k => k.publicKey ≠ c.publicKey) := by
  have hsub : (peers.filter fun k => k.publicKey ≠ c.publicKey).Sublist peers := List.filter_sublist
  refine ⟨(List.nodup_cons.1 h.changes).2, (hsub.map _).nodup h.kernel, fun d hd hr => ?_⟩
  obtain ⟨hu, hmem⟩ := h.absent d (List.mem_cons_of_mem _ hd) hr
  exact ⟨hu, fun hm => hmem ((hsub.map _).subset hm)⟩

/-- The rest of the batch after a peer was installed. -/
theorem of_install (h : Applicable (c :: cs) peers) (hr : c.remove = false) :
    Applicable cs (peers ++ [c.installed]) := by
  have hmem := (h.absent c List.mem_cons_self hr).2
  refine ⟨(List.nodup_cons.1 h.changes).2, ?_, fun d hd hdr => ?_⟩
  · rw [List.map_append, List.map_singleton]
    refine List.nodup_append.2 ⟨h.kernel, by simp, ?_⟩
    intro x hx y hy he
    rw [List.mem_singleton.1 hy, publicKey_installed] at he
    exact hmem (he ▸ hx)
  · obtain ⟨hu, hmem'⟩ := h.absent d (List.mem_cons_of_mem _ hd) hdr
    refine ⟨hu, ?_⟩
    rw [List.map_append, List.map_singleton, List.mem_append, List.mem_singleton, not_or]
    exact ⟨hmem', h.publicKey_ne hd⟩

/-- No later change removes what the first one installs. -/
theorem spares_installed (h : Applicable (c :: cs) peers) : spares cs c.installed = true := by
  refine List.all_eq_true.2 fun d hd => ?_
  simp [h.publicKey_ne hd]

/-- Such a batch takes out what it removes and adds what it installs. -/
theorem applyAll_eq (h : Applicable cs peers) :
    applyAll cs peers
      = peers.filter (spares cs) ++ (cs.filter fun c => !c.remove).map installed := by
  induction cs generalizing peers with
  | nil =>
    have hall : peers.filter (spares []) = peers := List.filter_eq_self.2 fun _ _ => rfl
    simp [hall]
  | cons c cs ih =>
    rw [applyAll_cons]
    by_cases hr : c.remove = true
    · rw [apply_of_remove hr h.kernel, ih h.of_removal, List.filter_filter,
        List.filter_cons_of_neg (by simp [hr])]
      congr 2
      funext k
      rw [spares_cons, hr, Bool.true_and, Bool.and_comm]
      simp [eq_comm]
    · have hr' : c.remove = false := by simpa using hr
      obtain ⟨hu, hmem⟩ := h.absent c List.mem_cons_self hr'
      have hspares : spares (c :: cs) = spares cs := by
        funext k
        rw [spares_cons, hr', Bool.false_and, Bool.not_false, Bool.true_and]
      rw [apply_of_absent hr' hu hmem, ih (h.of_install hr'), List.filter_append,
        List.filter_cons_of_pos h.spares_installed, List.filter_nil,
        List.filter_cons_of_pos (by simp [hr']), List.map_cons, hspares, List.append_assoc,
        List.singleton_append]

/-- After such a batch every key is still there once. -/
theorem nodup_applyAll (h : Applicable cs peers) :
    ((applyAll cs peers).map KernelPeer.publicKey).Nodup := by
  rw [h.applyAll_eq, List.map_append, List.map_map]
  refine List.nodup_append.2 ⟨(List.filter_sublist.map _).nodup h.kernel, ?_, ?_⟩
  · exact (List.filter_sublist.map PeerChange.publicKey).nodup h.changes
  · rintro x hx y hy rfl
    obtain ⟨c, hc, he⟩ := List.mem_map.1 hy
    obtain ⟨hc, hr⟩ := List.mem_filter.1 hc
    have hmem := (h.absent c hc (by simpa using hr)).2
    rw [show c.publicKey = x from he] at hmem
    exact hmem ((List.filter_sublist.map _).subset hx)

end Applicable

end TunnelKeeper.PeerChange
