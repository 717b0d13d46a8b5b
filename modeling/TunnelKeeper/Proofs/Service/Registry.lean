import TunnelKeeper.Proofs.Service.DeviceCourse
import TunnelKeeper.Proofs.Service.Turns
import TunnelKeeper.Proofs.Store.Devices

/-!
# The registry and the stored devices

A registered device is a copy of a stored one, taken by the pass that registered it, with a pool of its
block. Every operation that stores another device under its identifier runs a pass over it, which takes
the copy anew or drops it. The exception is an update whose interface the kernel refuses to provision:
it ends before its pass, and the copy stays as it was (`Strands`).

So in every run the registered devices are stored ones, by name and keys, each with the pool and the
capacity of its own address (`Rooted`), and as long as no update is stranded they have all that is
stored (`Current`). Both are instances of one invariant, `Backed`, that leaves open in what a
registered device has to be like the stored one. `registry_follows` puts this together, and
`stranded_update` shows an update that is stranded, and a peer that gets an address of the old block.
-/

namespace TunnelKeeper

/-- The device as it is configured, without what is known of it beyond that. -/
def Device.configuration (d : Device) : Device := { d with status := .unknown }

/-- The pool and the capacity of a registered device are those of its own address. -/
def ManagedDevice.Coherent (reserved : UInt32) (m : ManagedDevice) : Prop :=
  ∃ pool block, m.pool = some pool ∧ m.device.network = .ok block ∧ pool.block = block ∧
    m.device.status.maxPeers = block.capacity reserved.toNat

/-- What a registered device has in common with the stored one: at least its identifier, and all there
is where their configurations agree. -/
structure Device.Bond (Like : Device → Device → Prop) : Prop where
  id : ∀ {d e}, Like d e → e.id = d.id
  configuration : ∀ {d e : Device}, e.configuration = d.configuration → Like d e

/-- The same device, however it is configured. -/
def Device.SameIdentity (d e : Device) : Prop :=
  e.id = d.id ∧ e.name = d.name ∧ e.privateKey = d.privateKey ∧ e.publicKey = d.publicKey

/-- The same device with the same configuration. -/
def Device.SameConfiguration (d e : Device) : Prop := e.configuration = d.configuration

namespace Device

variable {d e : Device}

theorem eq_of_configuration (h : e.configuration = d.configuration) :
    d.SameIdentity e ∧ e.network = d.network := by
  refine ⟨⟨(congrArg Device.id h :), (congrArg Device.name h :),
    (congrArg Device.privateKey h :), (congrArg Device.publicKey h :)⟩, ?_⟩
  have haddress : e.address = d.address := (congrArg Device.address h :)
  rw [network, network, haddress]

theorem bond_sameIdentity : Bond SameIdentity where
  id h := h.1
  configuration h := (eq_of_configuration h).1

theorem bond_sameConfiguration : Bond SameConfiguration where
  id h := (eq_of_configuration h).1.1
  configuration h := h

@[simp] theorem id_withFields (d : Device) (req : UpdateDevice) : (d.withFields req).id = d.id := rfl

/-- An update changes the configuration or nothing. -/
theorem withFields_eq {req : UpdateDevice}
    (h : (d.withFields req).configuration = d.configuration) : d.withFields req = d := by
  have hstatus : d.withFields req = { (d.withFields req).configuration with status := d.status } :=
    rfl
  rw [hstatus, h]
  rfl

/-- The settings of a valid device can be worked out. -/
theorem exists_settings (h : d.validate = .ok ()) : ∃ settings, d.settings = .ok settings := by
  unfold settings
  cases hn : d.network with
  | ok c => exact ⟨_, rfl⟩
  | error e =>
    have hfault : d.addressViolations ≠ [] := by
      unfold addressViolations
      rw [hn]
      split
      · simp
      · simp
    have hnone := Validation.result_eq_ok_iff.1 h
    simp only [violations, List.append_eq_nil_iff] at hnone
    exact absurd hnone.1.1.2 hfault

end Device

/-! ## What a pass registers -/

namespace Reconciler

variable {κ σ δ : Type} {r : Reconciler κ σ δ} {id : Uuid} {w w' : World κ σ δ} {report : SyncReport}
  {Devices : δ → List Device → Prop} {ds : List Device}

/-- A pass registers the device as it is stored, with its pool and its capacity. -/
theorem spec_registered (h : r.syncDevice id w = (.ok report, w')) :
    ∃ d m, r.devices.get w.devices id = .ok d ∧ m.device.configuration = d.configuration ∧
      m.Coherent r.policy.reservedAddresses ∧ w'.registry = w.registry.insert d.id m := by
  obtain ⟨i, device, w₁, hreads, hcapacity, hsend, rfl, -⟩ := pass_eq_ok_iff.1 (pass_of_syncDevice h)
  have hblock := Device.block_initialPool hreads.base
  have hcopy : device.configuration = i.device.configuration ∧
      device.network = .ok i.base.block ∧
      device.status.maxPeers = i.base.block.capacity r.policy.reservedAddresses.toNat := by
    have hnet : (i.device.withSnapshot i.snapshot).network = .ok i.base.block := hblock
    rw [Device.withCapacity, hnet] at hcapacity
    rw [← Except.ok.inj hcapacity]
    exact ⟨rfl, hblock, rfl⟩
  obtain ⟨hconf, hnet, hmax⟩ := hcopy
  refine ⟨i.device, ⟨device, some i.pool⟩, hreads.stored, hconf,
    ⟨i.pool, i.base.block, rfl, hnet, i.block_pool, hmax⟩, ?_⟩
  rw [(send_eq_ok hsend).2, (Device.eq_of_configuration hconf).1.1]

/-- What is registered under an identifier after a pass was there before, unless the pass was over that
device: then it is the device as it is stored. -/
theorem registered_cases (hd : r.devices.Faithful Devices) (hds : Devices w.devices ds) {id' : Uuid}
    {m : ManagedDevice} (h : (r.syncDevice id w).2.registry[id']? = some m) :
    (id' ≠ id ∧ w.registry[id']? = some m) ∨
      (id' = id ∧ m.Coherent r.policy.reservedAddresses ∧
        ∃ d ∈ ds, d.id = id ∧ m.device.configuration = d.configuration) := by
  rcases hrun : r.syncDevice id w with ⟨e | report, w'⟩
  · rw [hrun] at h
    obtain ⟨k, -, rfl⟩ := syncDevice_error hrun
    refine .inl ⟨?_, Registry.of_erase h⟩
    rintro rfl
    rw [Std.ExtTreeMap.getElem?_erase_self] at h
    cases h
  · rw [hrun] at h
    obtain ⟨d, m', hget, hconf, hcoh, hreg⟩ := spec_registered hrun
    obtain ⟨hmem, hid⟩ := hd.get hds hget
    rw [hreg] at h
    rcases Registry.insert_cases h with ⟨hid', rfl⟩ | ⟨hne, h⟩
    · exact .inr ⟨hid'.symm.trans hid, hcoh, d, hmem, hid, hconf⟩
    · exact .inl ⟨fun he => hne (hid.trans he.symm), h⟩

end Reconciler

/-! ## The invariant -/

namespace PeerService

open Attempt (Preserves)

variable {κ σ δ : Type} {s : PeerService κ σ δ} {Devices : δ → List Device → Prop}
  {Like : Device → Device → Prop} {ds : List Device} {w w' w₀ : World κ σ δ} {id : Uuid}

/-- What is registered under the identifier is coherent, and like a stored device of that
identifier. -/
def BackedAt (s : PeerService κ σ δ) (Like : Device → Device → Prop) (ds : List Device)
    (w : World κ σ δ) (id : Uuid) : Prop :=
  ∀ m, w.registry[id]? = some m → m.Coherent s.reconciler.policy.reservedAddresses ∧
    ∃ d ∈ ds, d.id = id ∧ Like d m.device

/-- The devices `ds` are stored, and every registered device is backed by one of them. -/
structure Backed (s : PeerService κ σ δ) (Devices : δ → List Device → Prop)
    (Like : Device → Device → Prop) (ds : List Device) (w : World κ σ δ) : Prop where
  holds : Devices w.devices ds
  registered : ∀ id, s.BackedAt Like ds w id

/-- Every registered device is a stored one, with the pool and the capacity of its own address. -/
abbrev Rooted (s : PeerService κ σ δ) (Devices : δ → List Device → Prop) :
    List Device → World κ σ δ → Prop :=
  s.Backed Devices Device.SameIdentity

/-- Every registered device is as it is stored, with the pool and the capacity of that address. -/
abbrev Current (s : PeerService κ σ δ) (Devices : δ → List Device → Prop) :
    List Device → World κ σ δ → Prop :=
  s.Backed Devices Device.SameConfiguration

namespace Backed

variable (hL : Device.Bond Like)

include hL in
theorem keyed (h : s.Backed Devices Like ds w) : w.Keyed := by
  intro id m hm
  obtain ⟨-, d, -, hid, hlike⟩ := h.registered id m hm
  exact (hL.id hlike).trans hid

include hL in
/-- A pass over a device is all that it takes for what is registered of it. -/
theorem syncDevice_of_others (hd : s.reconciler.devices.Faithful Devices)
    (hds : Devices w.devices ds) (hothers : ∀ id', id' ≠ id → s.BackedAt Like ds w id') :
    s.Backed Devices Like ds (s.reconciler.syncDevice id w).2 := by
  refine ⟨by rw [Reconciler.devices_syncDevice]; exact hds, fun id' m hm => ?_⟩
  rcases Reconciler.registered_cases hd hds hm with ⟨hne, hm⟩ | ⟨rfl, hcoh, d, hmem, hid, hconf⟩
  · exact hothers id' hne m hm
  · exact ⟨hcoh, d, hmem, hid, hL.configuration hconf⟩

include hL in
theorem syncDevice (hd : s.reconciler.devices.Faithful Devices) (id : Uuid) :
    Preserves (s.Backed Devices Like ds) (s.reconciler.syncDevice id) :=
  fun _ h => syncDevice_of_others hL hd h.holds fun id' _ => h.registered id'

include hL in
/-- Bringing a device up leaves the others, and what is registered of it as it was or fresh. -/
theorem provisioned (hd : s.reconciler.devices.Faithful Devices) {d : Device}
    (h : s.Backed Devices Like ds w) (hp : DeviceService.Provisioned ⟨s.reconciler⟩ d w w') :
    s.Backed Devices Like ds w' := by
  cases hp with
  | unreadable => exact h
  | refused => exact ⟨h.holds, h.registered⟩
  | passed => exact syncDevice hL hd d.id _ ⟨h.holds, h.registered⟩

/-- Storing another device leaves what is registered. -/
theorem added {d : Device} {t : δ} (h : s.Backed Devices Like ds w) (ht : Devices t (ds ++ [d])) :
    s.Backed Devices Like (ds ++ [d]) { w with devices := t } := by
  refine ⟨ht, fun id m hm => ?_⟩
  obtain ⟨hcoh, e, he, hid, hlike⟩ := h.registered id m hm
  exact ⟨hcoh, e, List.mem_append_left _ he, hid, hlike⟩

/-- Storing a device in place of another leaves what is registered of the others. -/
theorem replaced (h : s.Backed Devices Like ds w) (d : Device) {t : δ} {id' : Uuid}
    (hne : id' ≠ d.id) : s.BackedAt Like (d.replaceIn ds) { w with devices := t } id' := by
  intro m hm
  obtain ⟨hcoh, e, he, hid, hlike⟩ := h.registered id' m hm
  exact ⟨hcoh, e, Keyed.mem_replaceIn_of_ne he (hid ▸ hne), hid, hlike⟩

theorem dropped {t : δ} {k : κ} (h : s.Backed Devices Like ds w)
    (ht : Devices t (Device.dropFrom ds id)) :
    s.Backed Devices Like (Device.dropFrom ds id) ⟨k, w.peers, t, w.registry.erase id⟩ := by
  refine ⟨ht, fun id' m hm => ?_⟩
  have hne : id' ≠ id := by
    rintro rfl
    rw [Std.ExtTreeMap.getElem?_erase_self] at hm
    cases hm
  obtain ⟨hcoh, e, he, hid, hlike⟩ := h.registered id' m (Registry.of_erase hm)
  exact ⟨hcoh, e, Keyed.mem_dropFrom.2 ⟨he, hid ▸ hne⟩, hid, hlike⟩

end Backed

/-! ## Operations -/

/-- A call takes addresses from the pool that it finds. -/
theorem Edit.block {t : σ} {m : ManagedDevice} {c : PeerCall} {d : Draft σ} {pool : AddressPool}
    (h : s.Edit t m c d) (hp : m.pool = some pool) :
    ∃ pool', d.taken.pool = some pool' ∧ pool'.block = pool.block := by
  cases h with
  | @add _ draw _ _ _ allocated =>
    unfold ManagedDevice.allocate at allocated ⊢
    cases hn : m.device.network with
    | error e =>
      rw [hn] at allocated
      cases allocated
    | ok block =>
      have hget : m.getPool = .ok pool := by rw [ManagedDevice.getPool, hp]
      simp only [hget]
      exact ⟨_, rfl, pool.block_allocateFor block _⟩
  | update | disable => exact ⟨pool, hp, rfl⟩
  | remove _ hasPool =>
    obtain rfl := Option.some.inj (hp.symm.trans hasPool)
    exact ⟨_, rfl, pool.block_releaseAllFor _ _⟩
  | @enable _ p _ pool' networks _ _ _ hasPool _ claimed =>
    obtain rfl := Option.some.inj (hp.symm.trans hasPool)
    have hblock := pool.block_claim (networks.map Cidr.ip) p.id
    rw [claimed] at hblock
    exact ⟨pool', rfl, hblock⟩

theorem Edit.coherent {t : σ} {m : ManagedDevice} {c : PeerCall} {d : Draft σ} {reserved : UInt32}
    (h : s.Edit t m c d) (hm : m.Coherent reserved) : d.taken.Coherent reserved := by
  obtain ⟨pool, block, hpool, hnet, hblock, hmax⟩ := hm
  obtain ⟨pool', hpool', hblock'⟩ := h.block hpool
  refine ⟨pool', block, hpool', ?_, hblock'.trans hblock, ?_⟩
  · rw [h.device]
    exact hnet
  · rw [h.device]
    exact hmax

section Operations

variable (hL : Device.Bond Like) (hd : s.reconciler.devices.Faithful Devices)
include hL hd

/-- A call to the peer service leaves the stored devices, and registers a device with another pool of
its block at most. -/
theorem backed_call (c : PeerCall) (h : s.Backed Devices Like ds w) :
    s.Backed Devices Like ds (s.call c w).2 := by
  refine preserves_call (I := s.Backed Devices Like ds) (J := fun _ v => s.Backed Devices Like ds v)
    (Backed.syncDevice hL hd) (fun v hv => hv.keyed hL) (fun v _ hv => hv) ?_ h
  rintro v v' m d r hv hm - hedit hout
  cases hout with
  | unstored => exact ⟨hv.holds, hv.registered⟩
  | stored =>
    refine ⟨hv.holds, fun id m' hm' => ?_⟩
    rcases Registry.insert_cases hm' with ⟨rfl, rfl⟩ | ⟨-, hm'⟩
    · rw [hedit.device]
      obtain ⟨hcoh, e, he, hid, hlike⟩ := hv.registered _ m hm
      exact ⟨hedit.coherent hcoh, e, he, hid, hlike⟩
    · exact hv.registered id m' hm'

/-- An update keeps the invariant if a registered device is like the stored one also once that is
updated. -/
theorem backed_update {req : UpdateDevice} (h : s.Backed Devices Like ds w)
    (hlike : ∀ d e, Like d e → Like (d.withFields req) e) :
    ∃ ds', s.Backed Devices Like ds' (DeviceService.update ⟨s.reconciler⟩ id req w).2 := by
  cases hget : s.reconciler.devices.get w.devices id with
  | error e =>
    rw [DeviceService.update_of_unknown (s := ⟨s.reconciler⟩) hget]
    exact ⟨ds, h⟩
  | ok d =>
    obtain ⟨hmem, rfl⟩ := hd.get h.holds hget
    have hbrought := DeviceService.brought_update (s := ⟨s.reconciler⟩) req hget
    generalize (DeviceService.update ⟨s.reconciler⟩ d.id req w).2 = w' at hbrought
    cases hbrought with
    | invalid => exact ⟨ds, h⟩
    | unstored unstored => exact ⟨ds, hd.update_error h.holds unstored, h.registered⟩
    | stored valid stored hp =>
      refine ⟨_, Backed.provisioned hL hd ⟨hd.update_ok h.holds stored, fun id' => ?_⟩ hp⟩
      by_cases hid : id' = d.id
      · intro m hm
        obtain ⟨hcoh, e, he, hid', hlike'⟩ := h.registered id' m hm
        obtain rfl := List.inj_on_of_nodup_map (hd.nodup h.holds) he hmem (hid'.trans hid)
        exact ⟨hcoh, _, Keyed.mem_replaceIn_self he rfl, hid', hlike _ _ hlike'⟩
      · exact h.replaced (d.withFields req) hid

/-- Every operation keeps the invariant, an update on the condition of `backed_update`. -/
theorem backed_perform (op : Operation) (h : s.Backed Devices Like ds w)
    (hop : ∀ id req, op = .updateDevice id req → ∀ d e, Like d e → Like (d.withFields req) e) :
    ∃ ds', s.Backed Devices Like ds' (s.perform w op) := by
  have hcall : ∀ c : PeerCall, ∃ ds', s.Backed Devices Like ds' (s.perform w c.operation) :=
    fun c => ⟨ds, perform_operation (s := s) c w ▸ backed_call hL hd c h⟩
  cases op with
  | addPeer now draw req => exact hcall (.add now draw req)
  | updatePeer now fresh id req => exact hcall (.update now fresh id req)
  | removePeer id => exact hcall (.remove id)
  | enablePeer id => exact hcall (.enable id)
  | disablePeer id => exact hcall (.disable id)
  | sync id => exact ⟨ds, Backed.syncDevice hL hd id w h⟩
  | syncAll => exact ⟨ds, Reconciler.preserves_syncDevices_of (Backed.syncDevice hL hd) w h⟩
  | lookup id => exact ⟨ds, Reconciler.preserves_device_of (Backed.syncDevice hL hd) id w h⟩
  | addDevice d =>
    have hbrought := DeviceService.brought_add (s := ⟨s.reconciler⟩) d w
    rw [perform]
    generalize (DeviceService.add ⟨s.reconciler⟩ d w).2 = w' at hbrought
    cases hbrought with
    | invalid => exact ⟨ds, h⟩
    | unstored unstored => exact ⟨ds, hd.add_error h.holds unstored, h.registered⟩
    | stored _ stored hp =>
      exact ⟨_, Backed.provisioned hL hd (h.added (hd.add_ok h.holds stored)) hp⟩
  | updateDevice id req => exact backed_update hL hd h (hop id req rfl)
  | removeDevice id =>
    have hremoved := DeviceService.removed (s := ⟨s.reconciler⟩) id w
    rw [perform]
    generalize (DeviceService.remove ⟨s.reconciler⟩ id w).2 = w' at hremoved
    cases hremoved with
    | unknown => exact ⟨ds, h⟩
    | kept _ kept => exact ⟨ds, hd.remove_error h.holds kept, h.registered⟩
    | dropped k _ dropped => exact ⟨_, h.dropped (hd.remove_ok h.holds dropped)⟩

end Operations

/-! ## Stranded updates -/

/-- The operation changes a registered device and stores it, and the kernel refuses to provision its
interface. -/
inductive Strands (s : PeerService κ σ δ) (w : World κ σ δ) : Operation → Prop
  | update {id : Uuid} {req : UpdateDevice} {m : ManagedDevice} {d : Device} {t : δ}
    {settings : InterfaceSettings} {e : KernelError} {k : κ} (registered : w.registry[id]? = some m)
    (found : s.reconciler.devices.get w.devices id = .ok d) (changed : d.withFields req ≠ d)
    (valid : (d.withFields req).validate = .ok ())
    (stored : s.reconciler.devices.update (d.withFields req) w.devices = (.ok (), t))
    (readable : (d.withFields req).settings = .ok settings)
    (refused : s.reconciler.gateway.provision d.name settings w.kernel = (.error e, k)) :
    Strands s w (.updateDevice id req)

section Stranded

variable (hd : s.reconciler.devices.Faithful Devices)
include hd

/-- Where an update is stored and that is all, what is registered is as it is stored if and only if the
device is not registered or the update changes nothing. -/
theorem current_stored_iff {req : UpdateDevice} {d : Device} {t : δ} (h : s.Current Devices ds w)
    (hmem : d ∈ ds) (ht : Devices t ((d.withFields req).replaceIn ds)) (k : κ) :
    s.Current Devices ((d.withFields req).replaceIn ds) ⟨k, w.peers, t, w.registry⟩ ↔
      ∀ m, w.registry[d.id]? = some m → d.withFields req = d := by
  have hself : d.withFields req ∈ (d.withFields req).replaceIn ds :=
    Keyed.mem_replaceIn_self hmem (Device.id_withFields d req).symm
  constructor
  · -- What is registered would be like the old row and like the new one.
    intro hcurrent m hm
    obtain ⟨-, e, he, hid, hlike⟩ := h.registered d.id m hm
    obtain rfl := List.inj_on_of_nodup_map (hd.nodup h.holds) he hmem hid
    obtain ⟨-, e', he', hid', hlike'⟩ := hcurrent.registered e.id m hm
    obtain rfl := List.inj_on_of_nodup_map (hd.nodup ht) he' hself hid'
    exact Device.withFields_eq (hlike'.symm.trans hlike)
  · intro hsame
    refine ⟨ht, fun id' => ?_⟩
    by_cases hid : id' = d.id
    · intro m hm
      rw [hid] at hm ⊢
      obtain ⟨hcoh, e, he, hid', hlike⟩ := h.registered d.id m hm
      obtain rfl := List.inj_on_of_nodup_map (hd.nodup h.holds) he hmem hid'
      exact ⟨hcoh, _, hself, rfl, by rw [hsame m hm]; exact hlike⟩
    · exact h.replaced (t := t) (d.withFields req) hid

/-- What is registered is no longer as it is stored once an update is stranded, and only then. -/
theorem current_update_iff {req : UpdateDevice} (h : s.Current Devices ds w) :
    ∃ ds', Devices (s.perform w (.updateDevice id req)).devices ds' ∧
      (s.Current Devices ds' (s.perform w (.updateDevice id req)) ↔
        ¬ s.Strands w (.updateDevice id req)) := by
  rw [perform]
  cases hget : s.reconciler.devices.get w.devices id with
  | error e =>
    rw [DeviceService.update_of_unknown (s := ⟨s.reconciler⟩) hget]
    refine ⟨ds, h.holds, iff_of_true h ?_⟩
    rintro ⟨-, found⟩
    cases hget.symm.trans found
  | ok d =>
    obtain ⟨hmem, rfl⟩ := hd.get h.holds hget
    have hbrought := DeviceService.brought_update (s := ⟨s.reconciler⟩) req hget
    generalize (DeviceService.update ⟨s.reconciler⟩ d.id req w).2 = w' at hbrought
    cases hbrought with
    | invalid invalid =>
      refine ⟨ds, h.holds, iff_of_true h ?_⟩
      rintro ⟨-, found, -, valid⟩
      obtain rfl := Except.ok.inj (hget.symm.trans found)
      cases invalid.symm.trans valid
    | unstored unstored =>
      have hholds := hd.update_error h.holds unstored
      refine ⟨ds, hholds, iff_of_true ⟨hholds, h.registered⟩ ?_⟩
      rintro ⟨-, found, -, -, stored⟩
      obtain rfl := Except.ok.inj (hget.symm.trans found)
      cases unstored.symm.trans stored
    | @stored t _ valid stored hp =>
      have hholds := hd.update_ok h.holds stored
      have hothers : ∀ id', id' ≠ (d.withFields req).id → s.BackedAt Device.SameConfiguration
          ((d.withFields req).replaceIn ds) { w with devices := t } id' :=
        fun id' hid => h.replaced (d.withFields req) hid
      refine ⟨(d.withFields req).replaceIn ds, ?_⟩
      cases hp with
      | unreadable unreadable =>
        obtain ⟨settings, hsettings⟩ := Device.exists_settings valid
        cases unreadable.symm.trans hsettings
      | @refused settings e k readable refused =>
        refine ⟨hholds, (current_stored_iff hd h hmem hholds k).trans ?_⟩
        constructor
        · rintro hsame ⟨registered, found, changed, -⟩
          obtain rfl := Except.ok.inj (hget.symm.trans found)
          exact changed (hsame _ registered)
        · intro hnot m hm
          by_contra hne
          exact hnot (.update hm hget hne valid stored readable refused)
      | @passed settings k readable provisioned =>
        have hcurrent : s.Current Devices ((d.withFields req).replaceIn ds)
            (s.reconciler.syncDevice (d.withFields req).id { w with devices := t, kernel := k }).2 :=
          Backed.syncDevice_of_others Device.bond_sameConfiguration hd hholds hothers
        refine ⟨hcurrent.holds, iff_of_true hcurrent ?_⟩
        rintro ⟨-, found, -, -, -, readable', refused⟩
        obtain rfl := Except.ok.inj (hget.symm.trans found)
        obtain rfl := Except.ok.inj (readable.symm.trans readable')
        cases provisioned.symm.trans refused

theorem current_perform_iff (h : s.Current Devices ds w) (op : Operation) :
    ∃ ds', Devices (s.perform w op).devices ds' ∧
      (s.Current Devices ds' (s.perform w op) ↔ ¬ s.Strands w op) := by
  by_cases hop : ∃ id req, op = .updateDevice id req
  · obtain ⟨id, req, rfl⟩ := hop
    exact current_update_iff hd h
  · obtain ⟨ds', h'⟩ := backed_perform Device.bond_sameConfiguration hd op h
      fun id req hop' => absurd ⟨id, req, hop'⟩ hop
    refine ⟨ds', h'.holds, iff_of_true h' ?_⟩
    rintro ⟨⟩
    exact hop ⟨_, _, rfl⟩

end Stranded

/-! ## Runs -/

/-- One step of a run in which devices are stored, changed and removed by operations alone. Of the
kernel and of the stored peers nothing is asked. -/
inductive Move (s : PeerService κ σ δ) (Devices : δ → List Device → Prop)
    (Fit : World κ σ δ → Operation → Prop) : World κ σ δ → World κ σ δ → Prop
  | perform {w : World κ σ δ} (op : Operation) (fit : Fit w op) : Move s Devices Fit w (s.perform w op)
  | meanwhile {w : World κ σ δ} (k : κ) (p : σ) (t : δ)
    (ht : ∀ ds, Devices w.devices ds → Devices t ds) : Move s Devices Fit w ⟨k, p, t, w.registry⟩

/-- A run keeps the invariant if each of its operations does. -/
theorem backed_of_run {Fit : World κ σ δ → Operation → Prop} {ds₀ : List Device}
    (hstep : ∀ v ds op, Fit v op → s.Backed Devices Like ds v →
      ∃ ds', s.Backed Devices Like ds' (s.perform v op))
    (hds : Devices w₀.devices ds₀) (hregistry : w₀.registry = ∅)
    (hrun : Relation.ReflTransGen (s.Move Devices Fit) w₀ w) : ∃ ds, s.Backed Devices Like ds w := by
  induction hrun with
  | refl =>
    refine ⟨ds₀, hds, fun id m hm => ?_⟩
    rw [hregistry, Std.ExtTreeMap.getElem?_empty] at hm
    cases hm
  | tail _ step ih =>
    obtain ⟨ds, h⟩ := ih
    cases step with
    | perform op fit => exact hstep _ ds op fit h
    | meanwhile k p t ht => exact ⟨ds, ht ds h.holds, h.registered⟩

/-- After every run from an empty registry, what is registered are stored devices, each with the pool
and the capacity of its own address. If no update was stranded on the way, they are as they are
stored; and from there on, they stay so with an operation if and only if that is not a stranded
update. A pass over a device leaves nothing registered of it but what is stored. -/
theorem registry_follows {ds₀ : List Device} (hd : s.reconciler.devices.Faithful Devices)
    (hds : Devices w₀.devices ds₀) (hregistry : w₀.registry = ∅)
    (hrun : Relation.ReflTransGen (s.Move Devices fun _ _ => True) w₀ w) :
    (∃ ds, s.Rooted Devices ds w ∧
      (s.Current Devices ds w → ∀ op, ∃ ds', Devices (s.perform w op).devices ds' ∧
        (s.Current Devices ds' (s.perform w op) ↔ ¬ s.Strands w op)) ∧
      ∀ id, s.BackedAt Device.SameConfiguration ds (s.perform w (.sync id)) id) ∧
    (Relation.ReflTransGen (s.Move Devices fun v op => ¬ s.Strands v op) w₀ w →
      ∃ ds, s.Current Devices ds w) := by
  constructor
  · have hstep : ∀ v ds op, True → s.Rooted Devices ds v →
        ∃ ds', s.Rooted Devices ds' (s.perform v op) :=
      fun v ds op _ h => backed_perform Device.bond_sameIdentity hd op h fun _ _ _ _ _ hlike => hlike
    obtain ⟨ds, h⟩ := backed_of_run hstep hds hregistry hrun
    refine ⟨ds, h, fun hcurrent op => current_perform_iff hd hcurrent op, fun id m hm => ?_⟩
    rcases Reconciler.registered_cases hd h.holds hm with ⟨hne, -⟩ | ⟨-, hcoh, d, hmem, hid, hconf⟩
    · exact absurd rfl hne
    · exact ⟨hcoh, d, hmem, hid, hconf⟩
  · intro hstrict
    refine backed_of_run (fun v ds op fit h => ?_) hds hregistry hstrict
    obtain ⟨ds', -, hiff⟩ := current_perform_iff hd h op
    exact ⟨ds', hiff.2 fit⟩

end PeerService

/-! ## An update that is stranded -/

namespace Sample

open PeerService

/-- A request for another block. -/
def otherBlock : UpdateDevice :=
  ⟨none, none, some "10.9.0.1/24", none, none, none, none, none, none, none, none, none, none⟩

/-- The device is registered, and from here on the kernel refuses to provision interfaces. -/
def unprovisioned : World MemoryKernel MemoryPeers MemoryDevices :=
  let w := service.perform emptyWorld (.sync device.id)
  { w with kernel := w.kernel.setFault .provision (some ⟨.provision, none, fun _ => .io "refused"⟩) }

theorem moves_unprovisioned {Fit : World MemoryKernel MemoryPeers MemoryDevices → Operation → Prop}
    (fit : Fit emptyWorld (.sync device.id)) :
    Relation.ReflTransGen (service.Move MemoryDevices.Holds Fit) emptyWorld unprovisioned :=
  (Relation.ReflTransGen.single (.perform (.sync device.id) fit)).tail (.meanwhile _ _ _ fun _ h => h)

theorem registry_follows_unprovisioned :
    (∃ ds, service.Rooted MemoryDevices.Holds ds unprovisioned ∧
      (service.Current MemoryDevices.Holds ds unprovisioned → ∀ op, ∃ ds',
        MemoryDevices.Holds (service.perform unprovisioned op).devices ds' ∧
        (service.Current MemoryDevices.Holds ds' (service.perform unprovisioned op) ↔
          ¬ service.Strands unprovisioned op)) ∧
      ∀ id, service.BackedAt Device.SameConfiguration ds (service.perform unprovisioned (.sync id)) id) ∧
    ∃ ds, service.Current MemoryDevices.Holds ds unprovisioned := by
  have hholds : MemoryDevices.Holds emptyWorld.devices [device] :=
    ⟨rfl, List.nodup_singleton device.id⟩
  have hrun : Relation.ReflTransGen (service.Move MemoryDevices.Holds fun _ _ => True) emptyWorld
      unprovisioned := moves_unprovisioned trivial
  obtain ⟨hrooted, hcurrent⟩ :=
    registry_follows (s := service) MemoryDevices.faithful hholds rfl hrun
  exact ⟨hrooted, hcurrent (moves_unprovisioned fun h => nomatch h)⟩

/-- The device was to have another block. -/
def strandedWorld : World MemoryKernel MemoryPeers MemoryDevices :=
  service.perform unprovisioned (.updateDevice device.id otherBlock)

/-- The device is stored with the other block and registered with the old one, and the next peer gets an
address of that. -/
theorem stranded_update :
    Relation.ReflTransGen (service.Move MemoryDevices.Holds fun _ _ => True) emptyWorld
        strandedWorld ∧
      emptyWorld.registry = ∅ ∧
      strandedWorld.devices.devices.map Device.address = ["10.9.0.1/24"] ∧
      (strandedWorld.registry[device.id]?.map fun m => m.device.address) = some "10.0.0.1/24" ∧
      (service.add ⟨0, 0⟩ (draw 1) request strandedWorld).2.peers.rows.map PeerRow.allowedIps
        = [["10.0.0.2/32"]] :=
  ⟨(moves_unprovisioned trivial).tail (.perform (.updateDevice device.id otherBlock) trivial), rfl,
    by decide +kernel, by decide +kernel, by decide +kernel⟩

end Sample

end TunnelKeeper
