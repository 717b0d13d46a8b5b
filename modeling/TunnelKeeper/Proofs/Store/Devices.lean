import TunnelKeeper.Proofs.Store.Faithful

/-!
# Stores of devices that do what they say

`DeviceStore.Faithful store Holds` is for devices what `PeerStore.Faithful` is for peers: `Holds s ds`
ties a state to the devices it has, each identifier once, and an operation makes its change of that
list or none. Devices in memory are faithful. A list of devices with distinct identifiers is stored as
it is (`MemoryDevices.ofList_eq`).
-/

namespace TunnelKeeper

variable {δ : Type}

/-! ## What a store promises -/

/-- The devices `ds` with `d` in place of the one with its identifier. -/
abbrev Device.replaceIn (ds : List Device) (d : Device) : List Device :=
  Keyed.replaceIn Device.id ds d

/-- The devices `ds` less the one with an identifier. -/
abbrev Device.dropFrom (ds : List Device) (id : Uuid) : List Device :=
  Keyed.dropFrom Device.id ds id

/-- A store whose states hold devices, each identifier once, changes them as it is asked to or not at
all. -/
structure DeviceStore.Faithful (store : DeviceStore δ) (Holds : δ → List Device → Prop) : Prop where
  nodup : ∀ {s ds}, Holds s ds → (ds.map Device.id).Nodup
  get : ∀ {s ds id d}, Holds s ds → store.get s id = .ok d → d ∈ ds ∧ d.id = id
  list : ∀ {s ds page}, Holds s ds → store.list s .all = .ok page → page.items.Perm ds
  add_ok : ∀ {s s' ds d}, Holds s ds → store.add d s = (.ok (), s') → Holds s' (ds ++ [d])
  add_error : ∀ {s s' ds d e}, Holds s ds → store.add d s = (.error e, s') → Holds s' ds
  update_ok : ∀ {s s' ds d}, Holds s ds → store.update d s = (.ok (), s') →
    Holds s' (d.replaceIn ds)
  update_error : ∀ {s s' ds d e}, Holds s ds → store.update d s = (.error e, s') → Holds s' ds
  remove_ok : ∀ {s s' ds id}, Holds s ds → store.remove id s = (.ok (), s') →
    Holds s' (Device.dropFrom ds id)
  remove_error : ∀ {s s' ds id e}, Holds s ds → store.remove id s = (.error e, s') → Holds s' ds

/-! ## Devices in memory -/

namespace MemoryDevices

/-- The store has these devices. -/
structure Holds (s : MemoryDevices) (ds : List Device) : Prop where
  devices : s.devices = ds
  nodup : (ds.map Device.id).Nodup

variable {s : MemoryDevices} {ds : List Device}

theorem isSome_get?_iff {id : Uuid} : (s.get? id).isSome = true ↔ id ∈ s.devices.map Device.id :=
  Keyed.isSome_find?

theorem put_of_absent {d : Device} (h : d.id ∉ s.devices.map Device.id) :
    s.put d = ⟨s.devices ++ [d]⟩ := by
  rw [put, if_neg (mt isSome_get?_iff.1 h)]

theorem faithful : DeviceStore.Faithful store Holds where
  nodup := Holds.nodup
  get := by
    intro s ds id d h hg
    refine ⟨?_, MemoryDevices.keyed s id d hg⟩
    simp only [store] at hg
    split at hg
    · rename_i hf
      obtain rfl := Except.ok.inj hg
      rw [← h.devices]
      exact List.mem_of_find?_eq_some hf
    · cases hg
  list := by
    intro s ds page h hl
    obtain rfl := Except.ok.inj hl
    have hall : s.devices.filter (fun d => Text.matchesSearch none [d.name, d.description])
        = s.devices := List.filter_eq_self.2 fun _ _ => rfl
    have hitems : (select .all s.devices).items = sortBy before s.devices := by
      simp only [select, DeviceQuery.all, Page.ofList, hall, List.drop_zero, if_true]
    rw [hitems, ← h.devices]
    exact sortBy_perm before s.devices
  add_ok := by
    intro s s' ds d h ha
    simp only [store] at ha
    split at ha
    · cases ha
    · rename_i hnew
      split at ha
      · cases ha
      · have habsent := mt isSome_get?_iff.2 hnew
        rw [← (Prod.mk.inj ha).2, put_of_absent habsent]
        rw [h.devices] at habsent
        exact ⟨by rw [h.devices], Keyed.nodup_append_singleton h.nodup habsent⟩
  add_error := by
    intro s s' ds d e h ha
    simp only [store] at ha
    split at ha
    · rwa [← (Prod.mk.inj ha).2]
    · split at ha
      · rwa [← (Prod.mk.inj ha).2]
      · cases ha
  update_ok := by
    intro s s' ds d h hu
    simp only [store] at hu
    split at hu
    · cases hu
    · split at hu
      · rw [← (Prod.mk.inj hu).2]
        exact ⟨by rw [replace, h.devices]; rfl, Keyed.nodup_replaceIn h.nodup _⟩
      · cases hu
  update_error := by
    intro s s' ds d e h hu
    simp only [store] at hu
    split at hu
    · rwa [← (Prod.mk.inj hu).2]
    · split at hu
      · cases hu
      · rwa [← (Prod.mk.inj hu).2]
  remove_ok := by
    intro s s' ds id h hr
    simp only [store] at hr
    split at hr
    · rw [← (Prod.mk.inj hr).2]
      exact ⟨by rw [h.devices]; rfl, Keyed.nodup_dropFrom h.nodup _⟩
    · cases hr
  remove_error := by
    intro s s' ds id e h hr
    simp only [store] at hr
    split at hr
    · cases hr
    · rwa [← (Prod.mk.inj hr).2]

theorem Holds.get {d : Device} (h : Holds s ds) (hd : d ∈ ds) : store.get s d.id = .ok d := by
  have hget : s.get? d.id = some d := by
    rw [get?, h.devices]
    exact Keyed.find?_of_mem h.nodup hd
  simp only [store, hget]

/-- Devices with distinct identifiers are stored as they are. -/
theorem ofList_eq (h : (ds.map Device.id).Nodup) : (ofList ds).devices = ds := by
  suffices hput : ∀ s : MemoryDevices, ((s.devices ++ ds).map Device.id).Nodup →
      (ds.foldl put s).devices = s.devices ++ ds from hput ⟨[]⟩ h
  clear h
  induction ds with
  | nil => intro s _; exact (List.append_nil _).symm
  | cons d ds ih =>
    intro s hn
    have habsent : d.id ∉ s.devices.map Device.id := by
      rw [List.map_append, List.nodup_append] at hn
      exact fun hmem => hn.2.2 _ hmem _ List.mem_cons_self rfl
    rw [List.append_cons] at hn
    rw [List.foldl_cons, put_of_absent habsent, ih ⟨s.devices ++ [d]⟩ hn]
    exact (List.append_cons _ _ _).symm

end MemoryDevices

end TunnelKeeper
