import TunnelKeeper.Proofs.Service.DeviceCourse
import TunnelKeeper.Proofs.Service.Run

/-!
# Which devices are synced

A device is synced as long as it is registered. A pass that succeeds registers it, and a pass that
fails drops it, and does nothing else to the registry or to the stores (`syncDevice_failed`). So over a
run of passes, lookups and removals a device is synced if and only if the latest thing that happened to
it is a pass that succeeded (`synced_iff_latest_pass`). What happens in an operation is written down as
it goes (`events`): a lookup of a registered device is nothing, and a removal counts once the store has
dropped the device.
-/

namespace TunnelKeeper

/-- What happens to a device. -/
inductive SyncEvent
  /-- A pass over it ran to its end. -/
  | pass (id : Uuid) (succeeded : Bool)
  /-- It was dropped from the store. -/
  | removal (id : Uuid)
  deriving DecidableEq

namespace SyncEvent

def device : SyncEvent → Uuid
  | .pass id _ => id
  | .removal id => id

/-- Whether the event leaves its device synced. -/
def syncs : SyncEvent → Bool
  | .pass _ succeeded => succeeded
  | .removal _ => false

/-- The latest event of a device. -/
def latest? (log : List SyncEvent) (id : Uuid) : Option SyncEvent :=
  log.reverse.find? fun e => e.device = id

/-- What the event makes of the registry: its device is in it or not, and for the others nothing
changes. -/
structure Marks (e : SyncEvent) (before after : Registry) : Prop where
  here : after.contains e.device = e.syncs
  elsewhere : ∀ id, id ≠ e.device → after.contains id = before.contains id

/-- By the log, `now` came of `before`. -/
def Explains (log : List SyncEvent) (before now : Registry) : Prop :=
  ∀ id, now.contains id = ((latest? log id).map syncs).getD (before.contains id)

variable {log : List SyncEvent} {e : SyncEvent} {r₀ r r' : Registry}

theorem latest?_append (log : List SyncEvent) (e : SyncEvent) (id : Uuid) :
    latest? (log ++ [e]) id = if e.device = id then some e else latest? log id := by
  rw [latest?, List.reverse_append, List.reverse_singleton, List.singleton_append, List.find?_cons]
  by_cases h : e.device = id
  · simp [h]
  · simp [h, latest?]

theorem Explains.append (h : Explains log r₀ r) (he : e.Marks r r') :
    Explains (log ++ [e]) r₀ r' := by
  intro id
  rw [latest?_append]
  by_cases hid : e.device = id
  · rw [if_pos hid, ← hid, he.here]
    rfl
  · rw [if_neg hid, he.elsewhere id (Ne.symm hid)]
    exact h id

theorem Explains.refl (r : Registry) : Explains [] r r := fun _ => rfl

end SyncEvent

/-! ## Passes -/

namespace Registry

variable {registry : Registry} {id : Uuid} {m : ManagedDevice}

theorem marks_insert : (SyncEvent.pass id true).Marks registry (registry.insert id m) where
  here := Std.ExtTreeMap.contains_insert_self
  elsewhere id' hne := by
    have hid : id' ≠ id := hne
    rw [Std.ExtTreeMap.contains_eq_isSome_getElem?, getElem?_insert_of_ne registry m hid,
      Std.ExtTreeMap.contains_eq_isSome_getElem?]

theorem marks_erase {e : SyncEvent} (h : e.syncs = false) :
    e.Marks registry (registry.erase e.device) where
  here := by simp [h]
  elsewhere id' hne := by
    rw [Std.ExtTreeMap.contains_eq_isSome_getElem?, getElem?_erase_of_ne registry hne,
      Std.ExtTreeMap.contains_eq_isSome_getElem?]

end Registry

namespace Reconciler

variable {κ σ δ : Type} {r : Reconciler κ σ δ} {id : Uuid} {w w' : World κ σ δ} {report : SyncReport}
  {log : List SyncEvent} {r₀ : Registry}

/-- What a pass over the device comes to. -/
def passEvent (r : Reconciler κ σ δ) (id : Uuid) (w : World κ σ δ) : SyncEvent :=
  .pass id (r.syncDevice id w).1.isOk

/-- What passes over devices, one after another, come to. -/
def passEvents (r : Reconciler κ σ δ) : List Device → World κ σ δ → List SyncEvent
  | [], _ => []
  | d :: ds, w => r.passEvent d.id w :: r.passEvents ds (r.syncDevice d.id w).2

/-- A pass that succeeds registers its device, and that is all it changes but for the kernel. Where
faulty peers make a pass fail, it has found none. -/
theorem syncDevice_succeeded (hd : r.devices.Keyed) (h : r.syncDevice id w = (.ok report, w')) :
    ∃ m : ManagedDevice, m.device.id = id ∧
      w' = { w with kernel := w'.kernel, registry := w.registry.insert id m } ∧
      (r.policy.abortOnInvalidPeer = true → report.invalid = []) := by
  obtain ⟨i, device, hc⟩ := syncDevice_ok h
  have hid : device.id = id := hc.device_id.trans (hd _ _ _ hc.stored)
  refine ⟨⟨device, some i.pool⟩, hid, ?_, fun habort => ?_⟩
  · cases w'
    simp only [hc.peers.symm, hc.devices.symm, ← hid, hc.registry.symm]
  · rw [hc.report_eq]
    have htolerated := hc.tolerated
    unfold checkVerdicts at htolerated
    rw [habort] at htolerated
    split at htolerated
    · cases htolerated
    · rename_i hnone
      by_contra hsome
      obtain ⟨⟨peer, reason⟩, rest, hfirst⟩ := List.exists_cons_of_ne_nil hsome
      exact hnone peer reason rest rfl hfirst

theorem marks_pass (hd : r.devices.Keyed) (id : Uuid) (w : World κ σ δ) :
    (r.passEvent id w).Marks w.registry (r.syncDevice id w).2.registry := by
  unfold passEvent
  rcases h : r.syncDevice id w with ⟨e | report, w'⟩
  · obtain ⟨k, -, rfl⟩ := syncDevice_failed h
    exact Registry.marks_erase (e := .pass id false) rfl
  · obtain ⟨m, -, hw, -⟩ := syncDevice_succeeded hd h
    rw [hw]
    exact Registry.marks_insert

theorem explains_syncAll (hd : r.devices.Keyed) (ds : List Device)
    (h : SyncEvent.Explains log r₀ w.registry) :
    SyncEvent.Explains (log ++ r.passEvents ds w) r₀ (r.syncAll ds w).2.registry := by
  induction ds generalizing log w with
  | nil =>
    rw [passEvents, List.append_nil]
    exact h
  | cons d ds ih =>
    rw [passEvents, syncAll_cons, List.append_cons]
    exact ih (h.append (marks_pass hd d.id w))

end Reconciler

/-! ## Runs -/

/-- The operation is a pass, a lookup or a removal of a device. -/
def Operation.IsSyncing : Operation → Prop
  | .sync _ | .syncAll | .lookup _ | .removeDevice _ => True
  | _ => False

namespace PeerService

variable {κ σ δ : Type} {s : PeerService κ σ δ} {w w₀ : World κ σ δ} {log : List SyncEvent}
  {r₀ : Registry}

/-- What happens to devices in a pass, a lookup or a removal. -/
def events (s : PeerService κ σ δ) (w : World κ σ δ) : Operation → List SyncEvent
  | .sync id => [s.reconciler.passEvent id w]
  | .syncAll =>
    match s.reconciler.devices.list w.devices .all with
    | .ok page => s.reconciler.passEvents page.items w
    | .error _ => []
  | .lookup id => if w.registry.contains id then [] else [s.reconciler.passEvent id w]
  | .removeDevice id =>
    if (s.reconciler.devices.get w.devices id).isOk && (s.reconciler.devices.remove id w.devices).1.isOk
    then [.removal id] else []
  | _ => []

/-- A run of passes, lookups and removals from `w₀`, with the log of what happened in it. Between the
operations the kernel and the stores may become any others. -/
inductive Logged (s : PeerService κ σ δ) (w₀ : World κ σ δ) : List SyncEvent → World κ σ δ → Prop
  | start : Logged s w₀ [] w₀
  | perform {log : List SyncEvent} {w : World κ σ δ} (op : Operation) (syncing : op.IsSyncing)
    (h : Logged s w₀ log w) : Logged s w₀ (log ++ s.events w op) (s.perform w op)
  | meanwhile {log : List SyncEvent} {w : World κ σ δ} (k : κ) (p : σ) (t : δ)
    (h : Logged s w₀ log w) : Logged s w₀ log ⟨k, p, t, w.registry⟩

theorem explains_perform (hd : s.reconciler.devices.Keyed) {op : Operation} (hop : op.IsSyncing)
    (h : SyncEvent.Explains log r₀ w.registry) :
    SyncEvent.Explains (log ++ s.events w op) r₀ (s.perform w op).registry := by
  cases op with
  | addPeer | updatePeer | removePeer | enablePeer | disablePeer | addDevice | updateDevice =>
    exact hop.elim
  | sync id => exact h.append (Reconciler.marks_pass hd id w)
  | syncAll =>
    rw [events, perform, Reconciler.syncDevices]
    cases hl : s.reconciler.devices.list w.devices .all with
    | error e =>
      rw [Attempt.bind_of_error (by rw [Reconciler.ask_apply, hl]; rfl), List.append_nil]
      exact h
    | ok page =>
      rw [Attempt.bind_of_ok (Reconciler.ask_eq_ok.2 ⟨hl, rfl⟩)]
      exact Reconciler.explains_syncAll hd page.items h
  | lookup id =>
    rw [events, perform]
    cases hm : w.registry[id]? with
    | some m =>
      have hin : w.registry.contains id = true := by
        rw [Std.ExtTreeMap.contains_eq_isSome_getElem?, hm]
        rfl
      rw [Reconciler.device_of_registered hm, if_pos hin, List.append_nil]
      exact h
    | none =>
      have hout : ¬ w.registry.contains id = true := by
        rw [Std.ExtTreeMap.contains_eq_isSome_getElem?, hm]
        exact Bool.false_ne_true
      rw [Reconciler.device_of_unregistered hm, if_neg hout]
      exact h.append (Reconciler.marks_pass hd id w)
  | removeDevice id =>
    have hremoved := DeviceService.removed (s := ⟨s.reconciler⟩) id w
    rw [events, perform]
    generalize (DeviceService.remove ⟨s.reconciler⟩ id w).2 = w' at hremoved
    cases hremoved with
    | unknown unknown =>
      rw [if_neg (by rw [unknown]; exact Bool.false_ne_true), List.append_nil]
      exact h
    | kept found kept =>
      rw [if_neg (by rw [found, kept]; exact Bool.false_ne_true), List.append_nil]
      exact h
    | dropped k found dropped =>
      rw [if_pos (by rw [found, dropped]; rfl)]
      exact h.append (Registry.marks_erase (e := .removal id) rfl)

theorem explains_of_run (hd : s.reconciler.devices.Keyed) (h : s.Logged w₀ log w) :
    SyncEvent.Explains log w₀.registry w.registry := by
  induction h with
  | start => exact .refl _
  | perform op syncing _ ih => exact explains_perform hd syncing ih
  | meanwhile k p t _ ih => exact ih

/-- A pass that fails drops its device from the registry, and a pass that succeeds registers it. Neither
changes anything else but the kernel. If a pass that fails was to change peers of the kernel's, its
error is the kernel's own; and one that succeeds has found no faulty peer, if that is the policy. So
after a run a device is synced if the latest that happened to it is a pass that succeeded, or if
nothing happened to it and it was synced before. -/
theorem synced_iff_latest_pass (hd : s.reconciler.devices.Keyed) :
    (∀ id w w' e, s.reconciler.syncDevice id w = (.error e, w') →
      w' = { w with kernel := w'.kernel, registry := w.registry.erase id } ∧
        Reconciler.Failed s.reconciler id w e w'.kernel) ∧
    (∀ id w w' report, s.reconciler.syncDevice id w = (.ok report, w') →
      ∃ m : ManagedDevice, m.device.id = id ∧
        w' = { w with kernel := w'.kernel, registry := w.registry.insert id m } ∧
        (s.reconciler.policy.abortOnInvalidPeer = true → report.invalid = [])) ∧
    ∀ w₀ log w, s.Logged w₀ log w → ∀ id,
      w.registry.contains id
        = ((SyncEvent.latest? log id).map SyncEvent.syncs).getD (w₀.registry.contains id) := by
  refine ⟨fun id w w' e h => ?_, fun id w w' report h => ?_, fun w₀ log w h => ?_⟩
  · obtain ⟨k, hfailed, rfl⟩ := Reconciler.syncDevice_failed h
    exact ⟨rfl, hfailed⟩
  · exact Reconciler.syncDevice_succeeded hd h
  · exact explains_of_run hd h

end PeerService

/-! ## A device that is synced for a while -/

namespace Sample

open PeerService

/-- The device is registered, and its interface is gone. -/
def goneWorld : World MemoryKernel MemoryPeers MemoryDevices :=
  let w := service.perform emptyWorld (.sync device.id)
  { w with kernel := .ofTable ∅ }

/-- It was looked up as it was registered, and then a pass over it failed. -/
def droppedWorld : World MemoryKernel MemoryPeers MemoryDevices :=
  service.perform (service.perform goneWorld (.lookup device.id)) (.sync device.id)

theorem synced_iff_latest_pass_dropped :
    service.Logged emptyWorld [.pass device.id true] goneWorld ∧
      goneWorld.registry.contains device.id = true ∧
      service.Logged emptyWorld [.pass device.id true, .pass device.id false] droppedWorld ∧
      droppedWorld.registry.contains device.id = false ∧
      ∃ e, (service.reconciler.syncDevice device.id goneWorld).1 = .error e ∧
        Reconciler.Failed service.reconciler device.id goneWorld e
          (service.reconciler.syncDevice device.id goneWorld).2.kernel := by
  obtain ⟨hfailed, -, hsynced⟩ := synced_iff_latest_pass (s := service) MemoryDevices.keyed
  have hfirst : service.events emptyWorld (.sync device.id) = [.pass device.id true] := by
    decide +kernel
  have hlookup : service.events goneWorld (.lookup device.id) = [] := by decide +kernel
  have hlast : service.events (service.perform goneWorld (.lookup device.id)) (.sync device.id)
      = [.pass device.id false] := by decide +kernel
  have hgone : service.Logged emptyWorld [.pass device.id true] goneWorld := by
    rw [← hfirst]
    exact .meanwhile _ _ _ (.perform (.sync device.id) trivial .start)
  have hdropped : service.Logged emptyWorld [.pass device.id true, .pass device.id false]
      droppedWorld := by
    have hlog := (hgone.perform (.lookup device.id) trivial).perform (.sync device.id) trivial
    rw [hlookup, hlast] at hlog
    exact hlog
  have herror : (service.reconciler.syncDevice device.id goneWorld).1
      = .error (.kernel (.deviceNotFound device.name)) := by decide +kernel
  refine ⟨hgone, ?_, hdropped, ?_, _, herror, (hfailed _ _ _ _ (Attempt.run_eq herror)).2⟩
  · rw [hsynced _ _ _ hgone]
    rfl
  · rw [hsynced _ _ _ hdropped]
    rfl

end Sample

end TunnelKeeper
