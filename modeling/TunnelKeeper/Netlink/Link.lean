import TunnelKeeper.Kernel.Snapshot

/-!
The links of a kernel: its network interfaces, of which some are tunnels. What a link holds of a
tunnel and of its peers is raw, as the kernel keeps it; a snapshot of it need not exist.
-/

namespace TunnelKeeper

/-- Addresses that are routed to a peer, which need not make up a block. -/
structure AllowedRange where
  ip : IpAddress
  /-- The number of leading bits that count. -/
  length : UInt8
  deriving DecidableEq

namespace AllowedRange

def ofCidr (c : Cidr) : AllowedRange := ⟨c.ip, UInt8.ofNat c.length⟩

/-- The block of the range, unless it counts more bits than there are. -/
def toCidr? (r : AllowedRange) : Option Cidr := Cidr.mk? r.ip r.length.toNat

def text (r : AllowedRange) : String := r.ip.text ++ "/" ++ toString r.length

end AllowedRange

/-- A peer of a tunnel. -/
structure LinkPeer where
  publicKey : Key
  /-- The preshared key, zero for none. -/
  presharedKey : Key
  endpoint : Option SocketAddress
  /-- The seconds between keepalives, zero for none. -/
  keepalive : UInt16
  /-- The seconds of the latest handshake, zero in both parts for none. -/
  handshakeSeconds : Int
  /-- The nanoseconds of the latest handshake. -/
  handshakeNanoseconds : Int
  rxBytes : UInt64
  txBytes : UInt64
  allowedIps : List AllowedRange
  protocolVersion : UInt32
  deriving DecidableEq

/-- A peer without traffic, routes or settings. -/
def LinkPeer.new (publicKey : Key) : LinkPeer := ⟨publicKey, .zero, none, 0, 0, 0, 0, 0, [], 1⟩

structure Link where
  /-- The number that the kernel knows the link by. -/
  index : Nat
  name : String
  /-- What kind of virtual link it is, if it is one. -/
  kind : Option String
  /-- Whether it is up. -/
  up : Bool
  addresses : List Cidr
  privateKey : Option Key
  publicKey : Option Key
  listenPort : UInt16
  /-- The mark of outgoing packets, zero for none. -/
  firewallMark : UInt32
  peers : List LinkPeer
  deriving DecidableEq

namespace Link

/-- The kind of the links that are tunnels. -/
def tunnelKind : String := "wireguard"

def isTunnel (l : Link) : Bool := l.kind = some tunnelKind

/-- A new link, which is down. -/
def new (index : Nat) (name kind : String) : Link :=
  ⟨index, name, some kind, false, [], none, none, 0, 0, []⟩

end Link

/-! ## Snapshots -/

/-- A key, unless it is zero. -/
def Key.unlessZero (k : Key) : Option Key := if k.isZero then none else some k

namespace LinkPeer

/-- The latest handshake. There is none where both parts are zero, or where the time is out of
range. -/
def handshake (p : LinkPeer) : Option Timestamp :=
  let seconds := p.handshakeSeconds + p.handshakeNanoseconds / 1000000000
  let nanoseconds := p.handshakeNanoseconds % 1000000000
  if seconds = 0 ∧ nanoseconds = 0 then none else Timestamp.make? seconds nanoseconds.toNat

/-- The live state of the peer, unless a part of its latest handshake is negative. -/
def toKernelPeer? (p : LinkPeer) : Option KernelPeer :=
  if p.handshakeSeconds < 0 ∨ p.handshakeNanoseconds < 0 then none
  else some {
    publicKey := p.publicKey
    presharedKey := p.presharedKey.unlessZero
    endpoint := p.endpoint.map fun e => { e with scope := 0 }
    keepalive := .ofSeconds p.keepalive.toUInt64
    lastHandshake := p.handshake
    rxBytes := p.rxBytes
    txBytes := p.txBytes
    allowedIps := p.allowedIps.filterMap AllowedRange.toCidr?
    protocolVersion := p.protocolVersion }

end LinkPeer

/-- The live state of a tunnel, unless that of one of its peers cannot be told. -/
def Link.snapshot? (l : Link) : Option Snapshot :=
  (l.peers.mapM LinkPeer.toKernelPeer?).map fun peers =>
    { name := l.name
      kind := .linuxKernel
      privateKey := l.privateKey.bind Key.unlessZero
      publicKey := l.publicKey.bind Key.unlessZero
      listenPort := l.listenPort
      firewallMark := l.firewallMark
      peers }

end TunnelKeeper
