import TunnelKeeper.Daemon.Config
import TunnelKeeper.Store.Memory
import TunnelKeeper.Store.StateFile

/-!
The work of the daemon. It keeps peers in the state file and devices in memory, and works in cycles:
a cycle provisions the interface of every device and then runs a pass over every device. A device
that cannot be provisioned is left to its pass, which reports it.
-/

namespace TunnelKeeper

namespace Reconciler

variable {κ σ δ ε : Type} (r : Reconciler κ σ δ)

/-- Provisions the interface of a device, and tells whether that worked. -/
def provision (d : Device) : Attempt ε (World κ σ δ) Bool := do
  match d.settings with
  | .error _ => return false
  | .ok settings =>
    let outcome : Except KernelError Unit ←
      Attempt.capture (onKernel (fun e => e) (r.gateway.provision d.name settings))
    return outcome.toBool

/-- Provisions the interfaces of devices, and counts those where that worked. -/
def provisionDevices : List Device → Attempt ε (World κ σ δ) Nat
  | [] => return 0
  | d :: rest => do
    let worked ← r.provision d
    let others ← provisionDevices rest
    return if worked then others + 1 else others

/-- Provisions the interface of every stored device, and counts those where that worked. -/
def provisionAll : Attempt ε (World κ σ δ) Nat := do
  match r.devices.list (← .get).devices .all with
  | .ok page => r.provisionDevices page.items
  | .error _ => return 0

/-- A cycle. There is no report where the devices cannot be listed. -/
def cycle : Attempt ε (World κ σ δ) (Option SyncReport) := do
  let _ ← r.provisionAll
  let report ← Attempt.capture r.syncDevices
  return report.toOption

end Reconciler

namespace Daemon

variable {κ : Type}

def reconciler (gateway : Gateway κ) (config : Config) : Reconciler κ FilePeers MemoryDevices :=
  ⟨gateway, FilePeers.store, MemoryDevices.store, config.policy⟩

/-- The daemon's world before its first cycle, with what is at the place of the state file. -/
def start (kernel : κ) (config : Config) (state : FileEntry) :
    Except StoreError (World κ FilePeers MemoryDevices) :=
  (FilePeers.openAt (.ofEntry state)).map fun peers =>
    ⟨kernel, peers, .ofList config.devices, ∅⟩

end Daemon

/-- Why the daemon ends with a failure. -/
inductive DaemonError
  | config (error : ConfigError)
  | store (error : StoreError)
  /-- The passes over so many devices failed. -/
  | unsynced (count : Nat)
  | unlisted
  deriving DecidableEq

def DaemonError.message : DaemonError → String
  | .config e => e.message
  | .store e => e.message
  | .unsynced count => toString count ++ " device(s) failed to sync"
  | .unlisted => "reconciliation failed"

/-- How a run of a single cycle ends. -/
def Daemon.outcome : Option SyncReport → Except DaemonError Unit
  | some report => if report.failed.isEmpty then .ok () else .error (.unsynced report.failed.length)
  | none => .error .unlisted

end TunnelKeeper
