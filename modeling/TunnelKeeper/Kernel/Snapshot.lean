import TunnelKeeper.Duration
import TunnelKeeper.Key
import TunnelKeeper.Net.Cidr
import TunnelKeeper.Net.SocketAddress
import TunnelKeeper.Timestamp

/-!
What the kernel tells about an interface, and what it can be told: the live state of a device and
its peers, changes to peers, and the settings of an interface.
-/

namespace TunnelKeeper

inductive DeviceKind
  | unknown
  | linuxKernel
  | userspace
  deriving DecidableEq, Repr

def DeviceKind.text : DeviceKind → String
  | .unknown => "unknown"
  | .linuxKernel => "linux_kernel"
  | .userspace => "userspace"

def DeviceKind.ofText? (s : String) : Option DeviceKind :=
  [.unknown, .linuxKernel, .userspace].find? fun k => k.text = s

/-- The live state of a peer. -/
structure KernelPeer where
  /-- The key that the kernel knows the peer by. -/
  publicKey : Key
  /-- The preshared key, if one is set. -/
  presharedKey : Option Key
  /-- Where the peer was last heard. -/
  endpoint : Option SocketAddress
  /-- The keepalive interval, zero for none. -/
  keepalive : Duration
  lastHandshake : Option Timestamp
  rxBytes : UInt64
  txBytes : UInt64
  /-- The networks that are routed to the peer. -/
  allowedIps : List Cidr
  /-- The version of the protocol spoken with the peer. -/
  protocolVersion : UInt32
  deriving DecidableEq

/-- A peer without traffic, routes or settings. -/
def KernelPeer.new (publicKey : Key) : KernelPeer :=
  ⟨publicKey, none, none, .zero, none, 0, 0, [], 1⟩

/-- The live state of an interface. -/
structure Snapshot where
  name : String
  kind : DeviceKind
  /-- Its private key, if one is set. -/
  privateKey : Option Key
  /-- Its public key, if a private key is set. -/
  publicKey : Option Key
  listenPort : UInt16
  /-- The mark of its outgoing packets, zero for none. -/
  firewallMark : UInt32
  peers : List KernelPeer
  deriving DecidableEq

def Snapshot.peer? (s : Snapshot) (publicKey : Key) : Option KernelPeer :=
  s.peers.find? fun p => p.publicKey = publicKey

/-- A change to one peer. -/
structure PeerChange where
  /-- The peer to add, change or remove. -/
  publicKey : Key
  /-- The preshared key to set. None leaves it, and the zero key clears it. -/
  presharedKey : Option Key
  /-- The endpoint to set. None leaves it. -/
  endpoint : Option SocketAddress
  /-- The keepalive interval to set. None leaves it. -/
  keepalive : Option Duration
  /-- Whether the networks take the place of those the peer has. -/
  replaceAllowedIps : Bool
  allowedIps : List Cidr
  /-- Whether only a peer that is there is changed. -/
  updateOnly : Bool
  /-- Whether the peer is removed; nothing but the key counts then. -/
  remove : Bool
  deriving DecidableEq

def PeerChange.removal (publicKey : Key) : PeerChange :=
  ⟨publicKey, none, none, none, false, [], false, true⟩

/-- The settings of an interface. -/
structure InterfaceSettings where
  privateKey : Key
  listenPort : UInt16
  /-- The mark of outgoing packets, zero to leave it alone. -/
  firewallMark : UInt32
  address : Cidr
  deriving DecidableEq

end TunnelKeeper
