import TunnelKeeper.Proofs.Attempt
import TunnelKeeper.Service.Devices

/-!
# How an operation on a device comes out

A device is brought up in three steps: it is written to the store, its interface is provisioned, and a
pass is run over it. `Brought` and `Provisioned` list where that may end, and with what world;
`Removed` does so for a device that is taken down. Later proofs split on these and open no operation.
-/

namespace TunnelKeeper

namespace DeviceService

variable {κ σ δ : Type} (s : DeviceService κ σ δ)

/-- What comes of provisioning the device `d` and running a pass over it. -/
inductive Provisioned (d : Device) (w : World κ σ δ) : World κ σ δ → Prop
  | unreadable {e : DeviceError} (unreadable : d.settings = .error e) : Provisioned d w w
  | refused {settings : InterfaceSettings} {e : KernelError} {k : κ}
    (readable : d.settings = .ok settings)
    (refused : s.reconciler.gateway.provision d.name settings w.kernel = (.error e, k)) :
    Provisioned d w { w with kernel := k }
  | passed {settings : InterfaceSettings} {k : κ} (readable : d.settings = .ok settings)
    (provisioned : s.reconciler.gateway.provision d.name settings w.kernel = (.ok (), k)) :
    Provisioned d w (s.reconciler.syncDevice d.id { w with kernel := k }).2

/-- What comes of bringing up the device `d` once it is written to the store. -/
inductive Brought (write : Device → Attempt StoreError δ Unit) (d : Device) (w : World κ σ δ) :
    World κ σ δ → Prop
  | invalid {e : ValidationError} (invalid : d.validate = .error e) : Brought write d w w
  | unstored {e : StoreError} {t : δ} (unstored : write d w.devices = (.error e, t)) :
    Brought write d w { w with devices := t }
  | stored {t : δ} {w' : World κ σ δ} (valid : d.validate = .ok ())
    (stored : write d w.devices = (.ok (), t))
    (provisioned : s.Provisioned d { w with devices := t } w') : Brought write d w w'

/-- What comes of removing the device `id`. -/
inductive Removed (id : Uuid) (w : World κ σ δ) : World κ σ δ → Prop
  | unknown {e : StoreError} (unknown : s.reconciler.devices.get w.devices id = .error e) :
    Removed id w w
  | kept {d : Device} {e : StoreError} {t : δ} (found : s.reconciler.devices.get w.devices id = .ok d)
    (kept : s.reconciler.devices.remove id w.devices = (.error e, t)) :
    Removed id w { w with devices := t }
  | dropped {d : Device} {t : δ} (k : κ) (found : s.reconciler.devices.get w.devices id = .ok d)
    (dropped : s.reconciler.devices.remove id w.devices = (.ok (), t)) :
    Removed id w ⟨k, w.peers, t, w.registry.erase id⟩

variable {s} {w : World κ σ δ}

theorem provisioned (d : Device) (w : World κ σ δ) :
    s.Provisioned d w (s.provisionAndSync d w).2 := by
  unfold provisionAndSync
  cases hs : d.settings with
  | error e => exact .unreadable hs
  | ok settings =>
    rw [Attempt.bind_of_ok (Attempt.ofExcept_eq_ok.2 ⟨rfl, rfl⟩)]
    rcases hp : s.reconciler.gateway.provision d.name settings w.kernel with ⟨e | u, k⟩
    · rw [Attempt.bind_of_error (Reconciler.onKernel_of_error hp)]
      exact .refused hs hp
    · rw [Attempt.bind_of_ok (Reconciler.onKernel_of_ok hp)]
      have hpassed := Provisioned.passed (s := s) (w := w) hs hp
      rcases hsync : s.reconciler.syncDevice d.id { w with kernel := k } with ⟨e | report, v⟩
      · rw [hsync] at hpassed
        rw [Attempt.bind_of_error (Attempt.mapError_of_error hsync)]
        exact hpassed
      · rw [hsync] at hpassed
        rw [Attempt.bind_of_ok (Attempt.mapError_eq_ok.2 hsync),
          Attempt.bind_of_ok (Attempt.get_apply v)]
        cases v.registry[d.id]? with
        | some m => exact hpassed
        | none => exact hpassed

theorem brought_stored {write : Device → Attempt StoreError δ Unit} (d : Device) (w : World κ σ δ) :
    s.Brought write d w ((do
      .ofExcept .validation d.validate
      Reconciler.onDevices .ofStore (write d)
      s.provisionAndSync d : Attempt ServiceFault (World κ σ δ) Device) w).2 := by
  cases hv : d.validate with
  | error e => exact .invalid hv
  | ok u =>
    rw [Attempt.bind_of_ok (Attempt.ofExcept_eq_ok.2 ⟨rfl, rfl⟩)]
    rcases hw : write d w.devices with ⟨e | u', t⟩
    · rw [Attempt.bind_of_error (Reconciler.onDevices_of_error hw)]
      exact .unstored hw
    · rw [Attempt.bind_of_ok (Reconciler.onDevices_of_ok hw)]
      exact .stored hv hw (provisioned d _)

theorem brought_add (d : Device) (w : World κ σ δ) :
    s.Brought s.reconciler.devices.add d w (s.add d w).2 := brought_stored d w

theorem storedDevice_of_error {id : Uuid} {e : StoreError}
    (h : s.reconciler.devices.get w.devices id = .error e) :
    s.storedDevice id w = (.error (.ofStore e), w) := by
  rw [storedDevice, Reconciler.ask_apply, h]
  rfl

theorem storedDevice_of_ok {id : Uuid} {d : Device}
    (h : s.reconciler.devices.get w.devices id = .ok d) : s.storedDevice id w = (.ok d, w) := by
  rw [storedDevice, Reconciler.ask_apply, h]
  rfl

theorem update_of_unknown {id : Uuid} {req : UpdateDevice} {e : StoreError}
    (h : s.reconciler.devices.get w.devices id = .error e) : (s.update id req w).2 = w := by
  rw [update, Attempt.bind_of_error (storedDevice_of_error h)]

theorem brought_update {id : Uuid} (req : UpdateDevice) {d : Device}
    (h : s.reconciler.devices.get w.devices id = .ok d) :
    s.Brought s.reconciler.devices.update (d.withFields req) w (s.update id req w).2 := by
  rw [update, Attempt.bind_of_ok (storedDevice_of_ok h)]
  exact brought_stored (d.withFields req) w

theorem removed (id : Uuid) (w : World κ σ δ) : s.Removed id w (s.remove id w).2 := by
  unfold remove
  cases hget : s.reconciler.devices.get w.devices id with
  | error e =>
    rw [Attempt.bind_of_error (storedDevice_of_error hget)]
    exact .unknown hget
  | ok d =>
    rw [Attempt.bind_of_ok (storedDevice_of_ok hget)]
    rcases hr : s.reconciler.devices.remove id w.devices with ⟨e | u, t⟩
    · rw [Attempt.bind_of_error (Reconciler.onDevices_of_error hr)]
      exact .kept hget hr
    · rw [Attempt.bind_of_ok (Reconciler.onDevices_of_ok hr),
        Attempt.bind_of_ok (Reconciler.unregister_apply _ _), Reconciler.onKernel_apply]
      exact .dropped _ hget hr

end DeviceService

end TunnelKeeper
