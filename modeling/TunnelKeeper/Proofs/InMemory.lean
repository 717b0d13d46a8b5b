import TunnelKeeper.Proofs.Kernel.Faithful
import TunnelKeeper.Proofs.Store.Faithful
import TunnelKeeper.Reconcile.Reconciler

/-!
# Worlds in memory

With the kernel and the stores in memory everything can be computed, so this is where a general
theorem meets a concrete case. A world made from one interface and a list of peers has those kernel
peers (`peersOf_memoryWorld`) and holds those peers (`holds_memoryWorld`). `Sample` names the parts
that small worlds are made of.
-/

namespace TunnelKeeper

namespace Reconciler

/-- A reconciler whose kernel and stores are in memory. -/
def inMemory (policy : Policy) : Reconciler MemoryKernel MemoryPeers MemoryDevices :=
  ⟨MemoryKernel.gateway, MemoryPeers.store, MemoryDevices.store, policy⟩

/-- A kernel with one interface, and stores with these devices and the rows of these peers. -/
def memoryWorld (interface : Snapshot) (devices : List Device) (ps : List Peer) :
    World MemoryKernel MemoryPeers MemoryDevices :=
  ⟨.ofTable (.ofList [interface]), ⟨ps.map fun p => (p.id, p.toRow)⟩, ⟨devices⟩, ∅⟩

variable {interface : Snapshot} {devices : List Device} {ps : List Peer}

theorem peersOf_memoryWorld (name : String) :
    (memoryWorld interface devices ps).kernel.peersOf name
      = if name = interface.name then interface.peers else [] := by
  have htable : (memoryWorld interface devices ps).kernel.table
      = (∅ : KernelTable).insert interface.name interface := rfl
  rw [MemoryKernel.peersOf_insert htable]
  rfl

theorem holds_memoryWorld (h : (ps.map Peer.id).Nodup) :
    MemoryPeers.Holds (memoryWorld interface devices ps).peers ps := ⟨rfl, h⟩

end Reconciler

namespace Sample

/-- The key whose octets are all `o`. -/
def key (o : UInt8) : Key := ⟨List.replicate 32 o, List.length_replicate⟩

/-- The identifier whose octets are all `o`. -/
def uuid (o : UInt8) : Uuid := ⟨List.replicate 16 o, List.length_replicate⟩

/-- The address `10.0.0.n`. -/
def ip (n : UInt8) : IpAddress := .v4 10 0 0 n

/-- A device with a block of 256 addresses. -/
def device : Device :=
  { Device.new (uuid 0) "wg0" (key 0) with
    endpoint := "vpn.example.org:51820"
    address := "10.0.0.1/24" }

/-- A peer of the device that declares `ips`. -/
def peer (o : UInt8) (isEnabled : Bool) (ips : List String) : Peer :=
  { Peer.new (uuid o) device.id (key o) "peer" with
    publicKey := key o
    allowedIps := ips
    isEnabled }

/-- A peer of the kernel's that routes `ips`. -/
def kernelPeer (o : UInt8) (ips : List IpAddress) : KernelPeer :=
  { KernelPeer.new (key o) with allowedIps := ips.map Cidr.host }

/-- The interface of the device, with these peers. -/
def interface (ks : List KernelPeer) : Snapshot := ⟨device.name, .linuxKernel, none, none, 0, 0, ks⟩

end Sample

end TunnelKeeper
