import TunnelKeeper.Kernel.Gateway
import TunnelKeeper.Reconcile.Pass
import TunnelKeeper.Store.Basic

/-!
What passes report, and why they fail.
-/

namespace TunnelKeeper

/-- Why a pass over a device fails. -/
inductive ReconcileError
  | store (error : StoreError)
  | kernel (error : KernelError)
  | invalidDevice (error : ValidationError)
  | device (error : DeviceError)
  /-- A stored peer is faulty, and the policy is to give up then. -/
  | invalidPeer (id : Uuid) (reason : String)
  deriving DecidableEq

namespace ReconcileError

def cause : ReconcileError → String
  | .store e => e.message
  | .kernel e => e.message
  | .invalidDevice e => e.message
  | .device e => e.message
  | .invalidPeer id reason => "invalid peer " ++ id.text ++ ": " ++ reason

def message (e : ReconcileError) : String := "reconcile: " ++ e.cause

/-- Whether the error is that a store has no such record. -/
def isNotFound : ReconcileError → Bool
  | .store e => e.isNotFound
  | _ => false

end ReconcileError

structure SyncReport where
  /-- The names of the devices whose pass succeeded. -/
  synced : List String
  /-- The names of the devices whose pass failed, with the errors. -/
  failed : List (String × ReconcileError)
  pushed : List Uuid
  /-- The disabled peers taken out of the kernel. -/
  removed : List Uuid
  /-- The peers with faulty records, with the faults. -/
  invalid : List (Uuid × String)
  /-- The peers left out because an address they declare is someone else's. -/
  conflicting : List Uuid
  deriving DecidableEq

namespace SyncReport

def empty : SyncReport := ⟨[], [], [], [], [], []⟩

def append (a b : SyncReport) : SyncReport :=
  ⟨a.synced ++ b.synced, a.failed ++ b.failed, a.pushed ++ b.pushed, a.removed ++ b.removed,
    a.invalid ++ b.invalid, a.conflicting ++ b.conflicting⟩

def ofFailure (name : String) (e : ReconcileError) : SyncReport := { empty with failed := [(name, e)] }

/-- A pass over the device `name` succeeded with these verdicts. -/
def ofVerdicts (name : String) (verdicts : List (Peer × Verdict)) : SyncReport where
  synced := [name]
  failed := []
  pushed := Pass.idsWhere Verdict.isPushed verdicts
  removed := Pass.idsWhere Verdict.isRemoved verdicts
  invalid := Pass.invalid verdicts
  conflicting := Pass.idsWhere (· = .conflicting) verdicts

/-- Whether no device failed and no peer was left out. -/
def isClean (r : SyncReport) : Bool :=
  r.failed.isEmpty && r.invalid.isEmpty && r.conflicting.isEmpty

end SyncReport

end TunnelKeeper
