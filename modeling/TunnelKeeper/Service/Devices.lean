import TunnelKeeper.Document.Render
import TunnelKeeper.Reconcile.Reconciler
import TunnelKeeper.Service.Error

/-!
The device service. A new or changed device is stored, then its interface is provisioned, then a pass
is run over it. Where provisioning fails the stored change stays.
-/

namespace TunnelKeeper

/-- Changes to a device. None leaves a field; the name and the keys are fixed. -/
structure UpdateDevice where
  description : Option String
  endpoint : Option String
  address : Option String
  listenPort : Option UInt16
  firewallMark : Option UInt32
  mtu : Option UInt32
  dns : Option String
  table : Option String
  keepalive : Option Duration
  preUp : Option String
  postUp : Option String
  preDown : Option String
  postDown : Option String

/-- The device with the fields that a request names. -/
def Device.withFields (d : Device) (req : UpdateDevice) : Device :=
  { d with
    description := req.description.getD d.description
    endpoint := req.endpoint.getD d.endpoint
    address := req.address.getD d.address
    listenPort := req.listenPort.getD d.listenPort
    firewallMark := req.firewallMark.getD d.firewallMark
    mtu := req.mtu.getD d.mtu
    dns := req.dns.getD d.dns
    table := req.table.getD d.table
    keepalive := req.keepalive.getD d.keepalive
    preUp := req.preUp.getD d.preUp
    postUp := req.postUp.getD d.postUp
    preDown := req.preDown.getD d.preDown
    postDown := req.postDown.getD d.postDown }

structure DeviceService (κ σ δ : Type) where
  reconciler : Reconciler κ σ δ

namespace DeviceService

variable {κ σ δ : Type} (s : DeviceService κ σ δ)

def storedDevice (id : Uuid) : Attempt ServiceFault (World κ σ δ) Device :=
  Reconciler.ask .ofStore fun w => s.reconciler.devices.get w.devices id

/-- Provisions the interface of a stored device and runs a pass over it. -/
def provisionAndSync (d : Device) : Attempt ServiceFault (World κ σ δ) Device := do
  let settings ← .ofExcept .ofDevice d.settings
  Reconciler.onKernel .kernelApplyFailed (s.reconciler.gateway.provision d.name settings)
  let _ ← (s.reconciler.syncDevice d.id).mapError .ofReconcile
  match (← .get).registry[d.id]? with
  | some m => return m.device
  | none => .fail (.deviceNotFound d.id)

/-- Stores a new device and brings it up. -/
def add (d : Device) : Attempt ServiceFault (World κ σ δ) Device := do
  .ofExcept .validation d.validate
  Reconciler.onDevices .ofStore (s.reconciler.devices.add d)
  s.provisionAndSync d

/-- Changes fields of a device and brings it up with them. -/
def update (id : Uuid) (req : UpdateDevice) : Attempt ServiceFault (World κ σ δ) Device := do
  let before ← s.storedDevice id
  let d := before.withFields req
  .ofExcept .validation d.validate
  Reconciler.onDevices .ofStore (s.reconciler.devices.update d)
  s.provisionAndSync d

/-- Drops a device and deletes its interface. Its peers stay stored. -/
def remove (id : Uuid) : Attempt ServiceFault (World κ σ δ) Unit := do
  let d ← s.storedDevice id
  Reconciler.onDevices .ofStore (s.reconciler.devices.remove id)
  Reconciler.unregister id
  Reconciler.onKernel .kernelApplyFailed (s.reconciler.gateway.remove d.name)

/-- The registered device, with what the kernel tells of it. -/
def get (id : Uuid) : Attempt ServiceFault (World κ σ δ) Device := do
  let m ← (s.reconciler.device id).mapError .ofReconcile
  let snapshot ← Reconciler.onKernel .kernel (s.reconciler.gateway.read m.device.name)
  return m.device.withSnapshot snapshot

/-- A page of stored devices, in which registered ones are shown as they are registered. -/
def list (query : DeviceQuery) : Attempt ServiceFault (World κ σ δ) (Page Device) := do
  let limit ← .ofExcept .validation (pageLimit query.limit)
  let page ← Reconciler.ask .ofStore fun w =>
    s.reconciler.devices.list w.devices { query with limit }
  let registry := (← .get).registry
  return page.map fun d => (registry[d.id]?.map ManagedDevice.device).getD d

def downloadDocument (id : Uuid) : Attempt ServiceFault (World κ σ δ) (Download String) := do
  let d ← s.storedDevice id
  let peers ← Reconciler.ask .ofStore fun w => s.reconciler.peers.list w.peers (.ofDevice id)
  return ⟨d.name ++ ".conf", Document.server d peers.items⟩

end DeviceService

end TunnelKeeper
