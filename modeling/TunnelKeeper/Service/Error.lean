import TunnelKeeper.Qr.Picture
import TunnelKeeper.Reconcile.Report

/-!
Why the services refuse. An error of a layer below keeps its own text, and one that means that a
record is missing is the same whichever layer missed it.
-/

namespace TunnelKeeper

inductive ServiceFault
  | validation (error : ValidationError)
  | peerNotFound (id : Uuid)
  | deviceNotFound (id : Uuid)
  | pool (error : PoolError)
  | device (error : DeviceError)
  | peer (error : PeerError)
  | store (error : StoreError)
  | reconcile (error : ReconcileError)
  /-- The live state could not be read. -/
  | kernel (error : KernelError)
  /-- The change is stored, and the kernel did not take it. -/
  | kernelApplyFailed (error : KernelError)
  | qr (error : Qr.QrError)
  deriving DecidableEq

namespace ServiceFault

def message : ServiceFault → String
  | .validation e => e.message
  | .peerNotFound id => "peer " ++ id.text ++ " not found"
  | .deviceNotFound id => "device " ++ id.text ++ " not found"
  | .pool e => e.message
  | .device e => e.message
  | .peer e => e.message
  | .store e => e.message
  | .reconcile e => e.message
  | .kernel e => "reading kernel state failed: " ++ e.message
  | .kernelApplyFailed e => "kernel apply failed: " ++ e.message
  | .qr e => e.message

/-- The fault that an error of a store is. -/
def ofStore : StoreError → ServiceFault
  | .peerNotFound id => .peerNotFound id
  | .deviceNotFound id => .deviceNotFound id
  | e => .store e

def ofReconcile : ReconcileError → ServiceFault
  | .store e => ofStore e
  | e => .reconcile e

/-- The fault that an error of a device is. -/
def ofDevice : DeviceError → ServiceFault
  | .pool e => .pool e
  | e => .device e

/-- Whether the fault is that there is no such record. -/
def isNotFound : ServiceFault → Bool
  | .peerNotFound _ => true
  | .deviceNotFound _ => true
  | _ => false

/-- Whether the change is stored, and the kernel did not take it. -/
def isKernelApplyFailure : ServiceFault → Bool
  | .kernelApplyFailed _ => true
  | _ => false

end ServiceFault

inductive Component
  | peerService
  | deviceService
  deriving DecidableEq, Repr

def Component.text : Component → String
  | .peerService => "peer service"
  | .deviceService => "device service"

structure ServiceError where
  component : Component
  fault : ServiceFault
  deriving DecidableEq

def ServiceError.message (e : ServiceError) : String := e.component.text ++ ": " ++ e.fault.message

/-- A file made for download. -/
structure Download (α : Type) where
  name : String
  content : α
  deriving DecidableEq

/-- The size of a page when none is asked for. -/
def defaultPageLimit : Nat := 20

/-- The greatest size of a page. -/
def maxPageLimit : Nat := 100

/-- The size of a page for which `limit` was asked. -/
def pageLimit (limit : Nat) : Except ValidationError Nat :=
  (Validation.result "pagination"
    (if limit ≤ maxPageLimit then []
      else [⟨"limit", "limit should be " ++ toString maxPageLimit ++ " max"⟩])).map fun () =>
        if limit = 0 then defaultPageLimit else limit

end TunnelKeeper
