import TunnelKeeper.Peer.Basic

/-!
The stored form of a peer: identifiers and keys are texts, the keepalive is in whole seconds, and
what the kernel reports is left out. A preshared key counts only under its flag.
-/

namespace TunnelKeeper

/-- The stored form of a peer. -/
structure PeerRow where
  id : String
  deviceId : String
  privateKey : String
  publicKey : String
  /-- Whether the preshared key counts. -/
  hasPresharedKey : Bool
  presharedKey : Option String
  allowedIps : List String
  dns : String
  mtu : UInt32
  keepaliveSeconds : UInt64
  name : String
  email : String
  description : String
  tags : List String
  isEnabled : Bool
  deriving DecidableEq

namespace Peer

def toRow (p : Peer) : PeerRow where
  id := p.id.text
  deviceId := p.deviceId.text
  privateKey := p.privateKey.text
  publicKey := p.publicKey.text
  hasPresharedKey := p.presharedKey.isSome
  presharedKey := p.presharedKey.map Key.text
  allowedIps := p.allowedIps
  dns := p.dns
  mtu := p.mtu
  keepaliveSeconds := p.keepalive.seconds
  name := p.name
  email := p.email
  description := p.description
  tags := p.tags
  isEnabled := p.isEnabled

/-- The peer as it is stored: with its keepalive in whole seconds and nothing reported. -/
def stored (p : Peer) : Peer := { p with keepalive := p.keepalive.whole, status := .unknown }

end Peer

namespace PeerRow

def readId (s : String) : Except PeerError Uuid :=
  match Uuid.parse? s.toList with
  | some u => .ok u
  | none => .error (.invalidId s)

def readKey (field s : String) : Except PeerError Key := (Key.parse s).mapError (.invalidKey field)

/-- Reads the preshared key of the peer `id`, if the row says that there is one. -/
def readPresharedKey (r : PeerRow) (id : Uuid) : Except PeerError (Option Key) :=
  if r.hasPresharedKey then
    match r.presharedKey with
    | none => .error (.missingPresharedKey id)
    | some s => (readKey "preshared_key" s).map some
  else .ok none

def toPeer (r : PeerRow) : Except PeerError Peer := do
  let id ← readId r.id
  let deviceId ← readId r.deviceId
  let presharedKey ← r.readPresharedKey id
  let privateKey ← readKey "private_key" r.privateKey
  let publicKey ← readKey "public_key" r.publicKey
  return {
    id
    deviceId
    privateKey
    publicKey
    presharedKey
    allowedIps := r.allowedIps
    dns := r.dns
    mtu := r.mtu
    keepalive := .ofSeconds r.keepaliveSeconds
    name := r.name
    email := r.email
    description := r.description
    tags := r.tags
    isEnabled := r.isEnabled
    status := .unknown }

end PeerRow

end TunnelKeeper
