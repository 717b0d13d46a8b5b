import Std.Data.ExtTreeMap
import TunnelKeeper.Reconcile.Report

/-!
The reconciler brings the kernel in line with the stores. A pass over a device reads the live state,
checks the stored device, plans by `Pass`, and sends the changes in one call; it makes no call where
there is nothing to change. A device whose pass succeeded is registered with its pool, and stays so
until a pass over it fails or it is removed.
-/

namespace TunnelKeeper

structure Policy where
  /-- Whether a faulty stored peer makes the pass fail. -/
  abortOnInvalidPeer : Bool
  /-- The number of addresses that do not count as room for peers. -/
  reservedAddresses : UInt32
  deriving DecidableEq, Repr

/-- Faulty peers are left out, and the three addresses of every block do not count. -/
def Policy.default : Policy := ⟨false, Device.defaultReserved⟩

/-- The devices whose latest pass succeeded, with their pools. -/
abbrev Registry := Std.ExtTreeMap Uuid ManagedDevice

structure World (κ σ δ : Type) where
  kernel : κ
  peers : σ
  devices : δ
  registry : Registry

/-- The ways to the kernel and to the stores, and the policy. -/
structure Reconciler (κ σ δ : Type) where
  gateway : Gateway κ
  peers : PeerStore σ
  devices : DeviceStore δ
  policy : Policy

namespace Reconciler

variable {κ σ δ ε α : Type}

/-! ## Calls -/

def onKernel (wrap : KernelError → ε) (x : Attempt KernelError κ α) : Attempt ε (World κ σ δ) α :=
  .onPart World.kernel (fun k w => { w with kernel := k }) wrap x

def onPeers (wrap : StoreError → ε) (x : Attempt StoreError σ α) : Attempt ε (World κ σ δ) α :=
  .onPart World.peers (fun s w => { w with peers := s }) wrap x

def onDevices (wrap : StoreError → ε) (x : Attempt StoreError δ α) : Attempt ε (World κ σ δ) α :=
  .onPart World.devices (fun s w => { w with devices := s }) wrap x

/-- A question that leaves everything as it is. -/
def ask {ε' : Type} (wrap : ε' → ε) (x : World κ σ δ → Except ε' α) : Attempt ε (World κ σ δ) α :=
  do .ofExcept wrap (x (← .get))

/-- Registers a device in place of the one with its identifier. -/
def register (m : ManagedDevice) : Attempt ε (World κ σ δ) Unit :=
  .modify fun w => { w with registry := w.registry.insert m.device.id m }

def unregister (id : Uuid) : Attempt ε (World κ σ δ) Unit :=
  .modify fun w => { w with registry := w.registry.erase id }

/-! ## Passes -/

variable (r : Reconciler κ σ δ)

/-- Sends changes to the kernel, if there are any. -/
def send (name : String) (changes : List PeerChange) :
    Attempt ReconcileError (World κ σ δ) Unit :=
  if changes = [] then .done () else onKernel .kernel (r.gateway.configure name changes)

/-- Refuses verdicts with a faulty record, if that is the policy. -/
def checkVerdicts (verdicts : List (Peer × Verdict)) : Except ReconcileError Unit :=
  match r.policy.abortOnInvalidPeer, Pass.invalid verdicts with
  | true, (id, reason) :: _ => .error (.invalidPeer id reason)
  | _, _ => .ok ()

/-- A pass over a device, which leaves the registry alone where it fails. -/
def pass (id : Uuid) : Attempt ReconcileError (World κ σ δ) SyncReport := do
  let stored ← ask .store fun w => r.devices.get w.devices id
  let snapshot ← onKernel .kernel (r.gateway.read stored.name)
  .ofExcept .invalidDevice stored.validate
  let device ← .ofExcept .device
    ((stored.withSnapshot snapshot).withCapacity r.policy.reservedAddresses)
  let pool ← .ofExcept .device device.initialPool
  let peers ← ask .store fun w => r.peers.list w.peers (.ofDevice id)
  let pool := Pass.reserveKernel peers.items pool snapshot.peers
  let (verdicts, pool) := Pass.judgeAll snapshot pool peers.items
  .ofExcept (fun e => e) (r.checkVerdicts verdicts)
  r.send device.name (Pass.changes verdicts)
  register ⟨device, some pool⟩
  return .ofVerdicts device.name verdicts

/-- A pass over a device. Where it fails the device is dropped from the registry. -/
def syncDevice (id : Uuid) : Attempt ReconcileError (World κ σ δ) SyncReport := do
  match ← Attempt.capture (r.pass id) with
  | .ok report => return report
  | .error e =>
    unregister id
    .fail e

/-- Passes over devices, one after another, with what fails in the report. -/
def syncAll : List Device → Attempt ReconcileError (World κ σ δ) SyncReport
  | [] => return .empty
  | d :: rest => do
    let first ← Attempt.capture (r.syncDevice d.id)
    let others ← syncAll rest
    match first with
    | .ok report => return report.append others
    | .error e => return (SyncReport.ofFailure d.name e).append others

/-- A pass over every stored device. Only failing to list them is an error. -/
def syncDevices : Attempt ReconcileError (World κ σ δ) SyncReport := do
  let page ← ask .store fun w => r.devices.list w.devices .all
  r.syncAll page.items

/-- The registered device, after a pass over it if it was not registered. -/
def device (id : Uuid) : Attempt ReconcileError (World κ σ δ) ManagedDevice := do
  match (← .get).registry[id]? with
  | some m => return m
  | none =>
    let _ ← r.syncDevice id
    match (← .get).registry[id]? with
    | some m => return m
    | none => .fail (.store (.deviceNotFound id))

end Reconciler

end TunnelKeeper
