import TunnelKeeper.Attempt
import TunnelKeeper.Kernel.Snapshot

/-!
The way to the kernel. All that is known of a kernel here is a state `κ` and four calls on it; the
library's own kernels are in the neighbouring modules.
-/

namespace TunnelKeeper

/-- Why a call to the kernel fails. -/
inductive KernelError
  | deviceNotFound (name : String)
  /-- There is no way to the kernel here. -/
  | unsupported
  | interface (reason : String)
  | io (reason : String)
  deriving DecidableEq, Repr

namespace KernelError

def message : KernelError → String
  | .deviceNotFound name => "wireguard device " ++ name ++ " not found"
  | .unsupported => "not supported on this platform"
  | .interface reason => "wireguard interface error: " ++ reason
  | .io reason => "IO error: " ++ reason

/-- Whether the error is that there is no such interface. -/
def isNotFound : KernelError → Bool
  | .deviceNotFound _ => true
  | _ => false

end KernelError

/-- A way to a kernel with states in `κ`. -/
structure Gateway (κ : Type) where
  /-- Reads the live state of an interface. -/
  read : (name : String) → Attempt KernelError κ Snapshot
  /-- Makes changes to the peers of an interface, in order; other peers stay as they are. -/
  configure : (name : String) → List PeerChange → Attempt KernelError κ Unit
  /-- Creates an interface if it is not there, gives it its settings and brings it up. Its peers
  stay as they are. -/
  provision : (name : String) → InterfaceSettings → Attempt KernelError κ Unit
  /-- Deletes an interface if it is there. -/
  remove : (name : String) → Attempt KernelError κ Unit

/-- The way to a kernel where there is none. -/
def Gateway.unsupported (κ : Type) : Gateway κ where
  read _ := .fail .unsupported
  configure _ _ := .fail .unsupported
  provision _ _ := .fail .unsupported
  remove _ := .fail .unsupported

end TunnelKeeper
