import TunnelKeeper.Netlink.Request
import TunnelKeeper.Proofs.Keyed

/-!
# The links of a kernel

A change of the links that `select` picks is a map, so changes in a row are one change, and a lookup
by name goes through it (`change_change`, `find?_change`). In a table as a kernel keeps it (`Sound`)
every link has a name and a number of its own, which were given out in order; so what is addressed by
its number is the link that was found under its name (`Sound.index_iff`).
-/

namespace TunnelKeeper.LinkTable

variable {t : LinkTable} {select select' : Link → Bool} {f g : Link → Link} {name : String} {l : Link}

/-! ## Changes -/

theorem change_id (t : LinkTable) (select : Link → Bool) (h : ∀ l ∈ t.links, select l = true → f l = l) :
    t.change select f = t := by
  have hlinks : (t.links.map fun l => if select l then f l else l) = t.links := by
    refine (List.map_congr_left fun l hl => ?_).trans (List.map_id _)
    split
    · rename_i hs
      exact h l hl hs
    · rfl
  rw [change, hlinks]

theorem change_congr (h : ∀ l ∈ t.links, select l = select' l)
    (hf : ∀ l ∈ t.links, select l = true → f l = g l) : t.change select f = t.change select' g := by
  have hlinks : (t.links.map fun l => if select l then f l else l)
      = t.links.map fun l => if select' l then g l else l := by
    refine List.map_congr_left fun l hl => ?_
    rw [← h l hl]
    split
    · rename_i hs
      exact hf l hl hs
    · rfl
  rw [change, change, hlinks]

/-- Two changes of the same links are one. -/
theorem change_change (h : ∀ l, select l = true → select (f l) = true) :
    (t.change select f).change select g = t.change select fun l => g (f l) := by
  simp only [change, List.map_map]
  congr 1
  refine List.map_congr_left fun l _ => ?_
  simp only [Function.comp_apply]
  by_cases hs : select l = true
  · rw [if_pos hs, if_pos hs, if_pos (h l hs)]
  · rw [if_neg hs, if_neg hs, if_neg hs]

theorem mem_change : l ∈ (t.change select f).links ↔
    ∃ l' ∈ t.links, (if select l' then f l' else l') = l := List.mem_map

theorem map_change {α : Type} {key : Link → α} (h : ∀ l, key (f l) = key l) :
    (t.change select f).links.map key = t.links.map key := by
  rw [change, List.map_map]
  refine List.map_congr_left fun l _ => ?_
  simp only [Function.comp_apply]
  split
  · exact h l
  · rfl

/-- Changes that leave names are seen in a lookup by name. -/
theorem find?_change (h : ∀ l, (f l).name = l.name) (name : String) :
    (t.change select f).find? name
      = (t.find? name).map fun l => if select l then f l else l := by
  have hname : (fun l : Link => decide (l.name = name)) ∘ (fun l => if select l then f l else l)
      = fun l => decide (l.name = name) := by
    funext l
    simp only [Function.comp_apply]
    split
    · rw [h]
    · rfl
  rw [find?, change, List.find?_map, hname, find?]

/-- Links with other names stay as they are. -/
theorem others_change (h : ∀ l, (f l).name = l.name) :
    (t.change (·.name = name) f).links.filter (fun l => l.name ≠ name)
      = t.links.filter fun l => l.name ≠ name := by
  have hpred : (fun l : Link => decide (l.name ≠ name)) ∘
      (fun l => if decide (l.name = name) then f l else l) = fun l => decide (l.name ≠ name) := by
    funext l
    by_cases hl : l.name = name
    · simp [hl, h]
    · simp [hl]
  rw [change, List.filter_map, hpred]
  refine (List.map_congr_left fun l hl => ?_).trans (List.map_id _)
  have hl : l.name ≠ name := by simpa using (List.mem_filter.1 hl).2
  rw [decide_eq_false hl, if_neg Bool.false_ne_true]
  rfl

theorem tunnel?_eq_some : t.tunnel? name = some l ↔ t.find? name = some l ∧ l.isTunnel = true := by
  rw [tunnel?, Option.filter_eq_some_iff]

/-- A tunnel stays one, and its settings are those that were made. -/
theorem tunnel?_change (hname : ∀ l, (f l).name = l.name) (hkind : ∀ l, (f l).kind = l.kind)
    (hs : select l = true) (h : t.tunnel? name = some l) :
    (t.change select f).tunnel? name = some (f l) := by
  obtain ⟨hfind, hl⟩ := tunnel?_eq_some.1 h
  refine tunnel?_eq_some.2 ⟨?_, ?_⟩
  · rw [find?_change hname, hfind, Option.map_some, if_pos hs]
  · rwa [Link.isTunnel, hkind]

theorem mem_of_find? (h : t.find? name = some l) : l ∈ t.links ∧ l.name = name :=
  ⟨List.mem_of_find?_eq_some h, by simpa using List.find?_some h⟩

theorem add?_eq_some {t' : LinkTable} {kind : String} : t.add? name kind = some t' ↔
    t.find? name = none ∧ t' = ⟨t.links ++ [.new t.next name kind], t.next + 1⟩ := by
  unfold add?
  cases t.find? name with
  | none => simp [eq_comm]
  | some l => simp

/-! ## Tables that a kernel keeps -/

/-- Each link has a name and a number of its own, and the next number is above them all. -/
structure Sound (t : LinkTable) : Prop where
  names : (t.links.map Link.name).Nodup
  indices : (t.links.map Link.index).Nodup
  lt_next : ∀ l ∈ t.links, l.index < t.next

namespace Sound

theorem eq_of_name (h : t.Sound) {l l' : Link} (hl : l ∈ t.links) (hl' : l' ∈ t.links)
    (hname : l.name = l'.name) : l = l' := List.inj_on_of_nodup_map h.names hl hl' hname

theorem eq_of_index (h : t.Sound) {l l' : Link} (hl : l ∈ t.links) (hl' : l' ∈ t.links)
    (hindex : l.index = l'.index) : l = l' := List.inj_on_of_nodup_map h.indices hl hl' hindex

theorem find?_of_mem (h : t.Sound) (hl : l ∈ t.links) : t.find? l.name = some l :=
  Keyed.find?_of_mem h.names hl

/-- What has the number of the link that a name stands for has the name, and the other way round. -/
theorem index_iff (h : t.Sound) (hl : t.find? name = some l) {l' : Link} (hl' : l' ∈ t.links) :
    l'.index = l.index ↔ l'.name = name := by
  obtain ⟨hmem, rfl⟩ := mem_of_find? hl
  exact ⟨fun hi => congrArg Link.name (h.eq_of_index hl' hmem hi),
    fun hn => congrArg Link.index (h.eq_of_name hl' hmem hn)⟩

theorem change (h : t.Sound) (select : Link → Bool) (hname : ∀ l, (f l).name = l.name)
    (hindex : ∀ l, (f l).index = l.index) : (t.change select f).Sound := by
  refine ⟨by rw [map_change hname]; exact h.names, by rw [map_change hindex]; exact h.indices, ?_⟩
  intro l hl
  have hi : l.index ∈ (t.change select f).links.map Link.index := List.mem_map_of_mem hl
  rw [map_change hindex] at hi
  obtain ⟨l', hl', hi'⟩ := List.mem_map.1 hi
  exact hi' ▸ h.lt_next l' hl'

/-- A new link gets a name that no link had, and the next number. -/
theorem add? (h : t.Sound) {t' : LinkTable} {kind : String} (hadd : t.add? name kind = some t') :
    t'.Sound := by
  obtain ⟨hnone, rfl⟩ := add?_eq_some.1 hadd
  have hname : ∀ l ∈ t.links, l.name ≠ name := by
    intro l hl
    simpa using List.find?_eq_none.1 hnone l hl
  refine ⟨?_, ?_, ?_⟩
  · simpa [Link.new, List.nodup_append, h.names] using hname
  · simpa [Link.new, List.nodup_append, h.indices] using fun l hl => Nat.ne_of_lt (h.lt_next l hl)
  · intro l hl
    rcases List.mem_append.1 hl with hl | hl
    · exact Nat.lt_succ_of_lt (h.lt_next l hl)
    · rw [List.mem_singleton.1 hl]
      exact Nat.lt_succ_self _

theorem delete (h : t.Sound) (name : String) : (t.delete name).Sound := by
  have hsub : (t.delete name).links.Sublist t.links := List.filter_sublist
  exact ⟨(hsub.map _).nodup h.names, (hsub.map _).nodup h.indices,
    fun l hl => h.lt_next l (hsub.subset hl)⟩

theorem addAddress? (h : t.Sound) {t' : LinkTable} {index : Nat} {address : Cidr}
    (hadd : t.addAddress? index address = some t') : t'.Sound := by
  unfold LinkTable.addAddress? at hadd
  split at hadd
  · cases hadd
  · exact Option.some.inj hadd ▸ h.change _ (fun _ => rfl) fun _ => rfl

/-- The addresses listed with the number of a link are its own. -/
theorem addresses_of_mem (h : t.Sound) (hl : l ∈ t.links) :
    (t.addresses.filter fun a => a.1 = l.index).map Prod.snd = l.addresses := by
  have hown : ∀ l' : Link, (((l'.addresses.map fun a => (l'.index, a)).filter
      fun a => a.1 = l.index).map Prod.snd) = if l'.index = l.index then l'.addresses else [] := by
    intro l'
    by_cases hi : l'.index = l.index
    · simp [hi, List.filter_map, Function.comp_def]
    · simp [hi, List.filter_map, Function.comp_def]
  obtain ⟨before, after, hlinks⟩ := List.append_of_mem hl
  have hindices := h.indices
  rw [hlinks, List.map_append, List.map_cons, List.nodup_append] at hindices
  have hnone : ∀ l' ∈ before ++ after, l'.index ≠ l.index := by
    intro l' hl' hi
    rcases List.mem_append.1 hl' with hl' | hl'
    · exact hindices.2.2 _ (List.mem_map_of_mem hl') _ List.mem_cons_self hi
    · exact (List.nodup_cons.1 hindices.2.1).1 (hi ▸ List.mem_map_of_mem hl')
  have hrest : ∀ ls : List Link, (∀ l' ∈ ls, l'.index ≠ l.index) →
      (ls.flatMap fun l' => if l'.index = l.index then l'.addresses else []) = [] :=
    fun ls hls => List.flatMap_eq_nil_iff.2 fun l' hl' => if_neg (hls l' hl')
  rw [addresses, List.filter_flatMap, List.map_flatMap]
  simp only [hown]
  rw [hlinks, List.flatMap_append, List.flatMap_cons, if_pos rfl,
    hrest before fun l' hl' => hnone l' (List.mem_append_left _ hl'),
    hrest after fun l' hl' => hnone l' (List.mem_append_right _ hl'), List.nil_append,
    List.append_nil]

end Sound

end TunnelKeeper.LinkTable
