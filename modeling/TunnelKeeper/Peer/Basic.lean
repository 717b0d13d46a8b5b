import TunnelKeeper.Kernel.Snapshot
import TunnelKeeper.Mailbox
import TunnelKeeper.Text.Quoted
import TunnelKeeper.Uuid
import TunnelKeeper.Validation

/-!
Peers: who may use a device, with which keys and addresses. What the kernel reports about a peer is
kept apart from what is configured.
-/

namespace TunnelKeeper

/-- Why a peer is unusable. -/
inductive PeerError
  /-- An allowed address is not a block. -/
  | invalidAllowedIp (text : String)
  | invalidId (text : String)
  /-- The text of a key is none. -/
  | invalidKey (field : String) (error : KeyError)
  /-- The row says that there is a preshared key, and has none. -/
  | missingPresharedKey (id : Uuid)
  deriving DecidableEq

def PeerError.message : PeerError → String
  | .invalidAllowedIp text => "allowed ip " ++ Text.quoted text ++ " is not a valid CIDR"
  | .invalidId text => "invalid peer id " ++ Text.quoted text
  | .invalidKey field e => "invalid " ++ field ++ ": " ++ e.message
  | .missingPresharedKey id =>
    "peer " ++ id.text ++ " is flagged with a preshared key but none is stored"

/-- What the kernel reports about a peer. -/
structure PeerStatus where
  /-- Where the peer was last heard. -/
  endpoint : Option SocketAddress
  lastHandshake : Option Timestamp
  rxBytes : UInt64
  txBytes : UInt64
  /-- The version of the protocol spoken with the peer. -/
  protocolVersion : UInt32
  isActive : Bool
  deriving DecidableEq

namespace PeerStatus

def unknown : PeerStatus := ⟨none, none, 0, 0, 0, false⟩

/-- The nanoseconds for which a handshake counts as recent. -/
def activeWindow : Int := 120 * 1000000000

/-- Whether a handshake is recent at the time `now`. -/
def isRecent (now handshake : Timestamp) : Bool := now.total - handshake.total < activeWindow

/-- What the kernel reports at the time `now`. -/
def ofKernel (now : Timestamp) (p : KernelPeer) : PeerStatus :=
  ⟨p.endpoint, p.lastHandshake, p.rxBytes, p.txBytes, p.protocolVersion,
    p.lastHandshake.any (isRecent now)⟩

end PeerStatus

structure Peer where
  id : Uuid
  /-- The device that the peer belongs to. -/
  deviceId : Uuid
  privateKey : Key
  publicKey : Key
  presharedKey : Option Key
  /-- The addresses of the peer, as blocks. -/
  allowedIps : List String
  dns : String
  /-- The greatest size of a packet, zero for the default. -/
  mtu : UInt32
  keepalive : Duration
  name : String
  email : String
  description : String
  tags : List String
  isEnabled : Bool
  status : PeerStatus
  deriving DecidableEq

namespace Peer

/-- An enabled peer of a device with these keys, and nothing else. -/
def new (id deviceId : Uuid) (privateKey : Key) (name : String) : Peer where
  id
  deviceId
  privateKey
  publicKey := privateKey.publicKey
  presharedKey := none
  allowedIps := []
  dns := ""
  mtu := 0
  keepalive := .zero
  name
  email := ""
  description := ""
  tags := []
  isEnabled := true
  status := .unknown

def nameViolations (p : Peer) : List Violation :=
  if 1 ≤ p.name.length ∧ p.name.length ≤ 20 then []
  else [⟨"name", "name should be between 1 and 20 characters"⟩]

/-- The faults of the mail address, which may be empty. -/
def emailViolations (p : Peer) : List Violation :=
  if p.email = "" ∨ isMailbox p.email then []
  else [⟨"email", "email " ++ p.email ++ " is invalid"⟩]

def tagViolations (p : Peer) : List Violation :=
  (p.tags.filter fun tag => 20 < tag.length).map fun tag =>
    ⟨"tags", "tag " ++ Text.quoted tag ++ " should be 20 characters max"⟩

def violations (p : Peer) : List Violation :=
  p.nameViolations ++ p.emailViolations ++ Validation.checkDns p.dns
    ++ Validation.checkMaxLength "description" p.description 40 ++ p.tagViolations

def validate (p : Peer) : Except ValidationError Unit :=
  Validation.result ("peer " ++ p.id.text) p.violations

/-- Reads an allowed address, less the white space around it. -/
def readAllowedIp (s : String) : Except PeerError Cidr :=
  match Cidr.parse? (Text.trimmed s.toList) with
  | some c => .ok c
  | none => .error (.invalidAllowedIp s)

/-- Reads allowed addresses. The first that is none is the error. -/
def readAllowedIps : List String → Except PeerError (List Cidr)
  | [] => .ok []
  | s :: rest =>
    match readAllowedIp s with
    | .error e => .error e
    | .ok c =>
      match readAllowedIps rest with
      | .error e => .error e
      | .ok cs => .ok (c :: cs)

def allowedNetworks (p : Peer) : Except PeerError (List Cidr) := readAllowedIps p.allowedIps

/-- The addresses that the peer takes up in the pool of its device. -/
def reservedIps (p : Peer) : Except PeerError (List IpAddress) :=
  p.allowedNetworks.map fun cs => cs.map Cidr.ip

/-- The peer with what the kernel reports at the time `now`. -/
def withKernel (now : Timestamp) (p : Peer) (k : KernelPeer) : Peer :=
  { p with status := .ofKernel now k }

/-- The change that installs the peer in the kernel with these networks. -/
def changeFor (p : Peer) (networks : List Cidr) : PeerChange :=
  ⟨p.publicKey, p.presharedKey, none, some p.keepalive, true, networks, false, false⟩

/-- The change that installs the peer in the kernel. -/
def toChange (p : Peer) : Except PeerError PeerChange := p.allowedNetworks.map p.changeFor

end Peer

end TunnelKeeper
