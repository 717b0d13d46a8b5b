import TunnelKeeper.Document.Render
import TunnelKeeper.Reconcile.Reconciler
import TunnelKeeper.Service.Error

/-!
The peer service. An operation takes addresses from the pool, then stores, then applies to the
kernel. Where storing fails the addresses go back; where the kernel fails the stored change stays,
for the next pass to apply. What is drawn at random is given to the operations, and so is the time.
-/

namespace TunnelKeeper

/-- The settings of peers that choose none of their own. -/
structure PeerDefaults where
  dns : String
  /-- The greatest size of a packet. -/
  mtu : UInt32
  /-- The routes in the documents of peers. -/
  clientRoutes : List String
  deriving DecidableEq, Repr

/-- Public name servers, and all traffic through the tunnel. -/
def PeerDefaults.default : PeerDefaults := ⟨"9.9.9.9, 149.112.112.112", 1384, ["0.0.0.0/0"]⟩

/-- What is drawn for a new peer. -/
structure PeerDraw where
  id : Uuid
  privateKey : Key
  presharedKey : Key

/-- A new peer to add. -/
structure AddPeer where
  deviceId : Uuid
  name : String
  email : String
  description : String
  tags : List String
  dns : String
  mtu : UInt32
  keepalive : Duration
  /-- Whether to give the peer a preshared key. -/
  addPresharedKey : Bool

/-- Changes to a peer. None leaves a field. -/
structure UpdatePeer where
  name : Option String
  email : Option String
  description : Option String
  tags : Option (List String)
  dns : Option String
  mtu : Option UInt32
  keepalive : Option Duration
  /-- Whether to give the peer a preshared key if it has none then. -/
  addPresharedKey : Bool
  /-- Whether to take away its preshared key first. -/
  removePresharedKey : Bool

structure PeerService (κ σ δ : Type) where
  reconciler : Reconciler κ σ δ
  defaults : PeerDefaults

namespace Peer

/-- The peer with the default where it has no name servers or no greatest size of a packet. -/
def withDefaults (p : Peer) (d : PeerDefaults) : Peer :=
  { p with
    dns := if Text.isBlankText p.dns then d.dns else p.dns
    mtu := if p.mtu = 0 then d.mtu else p.mtu }

/-- The peer that a request asks for, on the device `deviceId`. -/
def ofRequest (draw : PeerDraw) (deviceId : Uuid) (req : AddPeer) : Peer :=
  { Peer.new draw.id deviceId draw.privateKey req.name with
    email := req.email
    description := req.description
    tags := req.tags
    dns := req.dns
    mtu := req.mtu
    keepalive := req.keepalive
    presharedKey := if req.addPresharedKey then some draw.presharedKey else none }

/-- The peer with the fields that a request names. -/
def withFields (p : Peer) (req : UpdatePeer) : Peer :=
  { p with
    name := req.name.getD p.name
    email := req.email.getD p.email
    description := req.description.getD p.description
    tags := req.tags.getD p.tags
    dns := req.dns.getD p.dns
    mtu := req.mtu.getD p.mtu
    keepalive := req.keepalive.getD p.keepalive }

/-- The preshared key after a request, where `fresh` is the one to give. -/
def presharedKeyAfter (p : Peer) (req : UpdatePeer) (fresh : Key) : Option Key :=
  let kept := if req.removePresharedKey then none else p.presharedKey
  if req.addPresharedKey && kept.isNone then some fresh else kept

/-- The change for a peer that the kernel may have with another preshared key: that of `before` is
cleared where `p` has none. -/
def updateChange (p before : Peer) (networks : List Cidr) : PeerChange :=
  let cleared := before.presharedKey.isSome && p.presharedKey.isNone
  { p.changeFor networks with
    updateOnly := true
    presharedKey := if cleared then some .zero else p.presharedKey }

end Peer

namespace PeerService

variable {κ σ δ α : Type} (s : PeerService κ σ δ)

def device (id : Uuid) : Attempt ServiceFault (World κ σ δ) ManagedDevice :=
  (s.reconciler.device id).mapError .ofReconcile

def storedPeer (id : Uuid) : Attempt ServiceFault (World κ σ δ) Peer :=
  Reconciler.ask .ofStore fun w => s.reconciler.peers.get w.peers id

def apply (name : String) (change : PeerChange) : Attempt ServiceFault (World κ σ δ) Unit :=
  Reconciler.onKernel .kernelApplyFailed (s.reconciler.gateway.configure name [change])

/-- The live state of a device, if it can be read. -/
def snapshot? (d : Device) : Attempt ServiceFault (World κ σ δ) (Option Snapshot) := do
  let r ← Attempt.capture (Reconciler.onKernel .kernel (s.reconciler.gateway.read d.name) :
    Attempt ServiceFault (World κ σ δ) Snapshot)
  return r.toOption

/-- A peer with what a live state tells of it. -/
def overlaid (now : Timestamp) (snapshot : Option Snapshot) (p : Peer) : Peer :=
  match snapshot.bind fun t => t.peer? p.publicKey with
  | some k => p.withKernel now k
  | none => p

/-- A peer with what the kernel tells of it, as far as it can be read. -/
def overlay (now : Timestamp) (d : Device) (p : Peer) : Attempt ServiceFault (World κ σ δ) Peer := do
  return overlaid now (← s.snapshot? d) p

/-- Stores a change. Where that fails, `undone` takes the place of the registered device. -/
def persist (undone : ManagedDevice) (x : Attempt StoreError σ Unit) :
    Attempt ServiceFault (World κ σ δ) Unit := do
  match ← Attempt.capture (Reconciler.onPeers ServiceFault.ofStore x) with
  | .ok () => return ()
  | .error e =>
    Reconciler.register undone
    .fail e

/-! ## Changes -/

/-- Allocates the address of a new peer, stores the peer and installs it. -/
def add (now : Timestamp) (draw : PeerDraw) (req : AddPeer) :
    Attempt ServiceFault (World κ σ δ) Peer := do
  let m ← s.device req.deviceId
  let peer := (Peer.ofRequest draw m.device.id req).withDefaults s.defaults
  .ofExcept .validation peer.validate
  let (address, taken) := m.allocate (.peer peer.id)
  let address ← .ofExcept .ofDevice address
  let peer := { peer with allowedIps := [address.text] }
  let change ← .ofExcept .peer peer.toChange
  Reconciler.register taken
  persist (taken.mapPool fun p => p.releaseAll [address.ip]) (s.reconciler.peers.add peer)
  s.apply m.device.name change
  s.overlay now m.device peer

/-- Changes fields of a peer, and of the kernel's peer if it is enabled. `fresh` is the preshared key
to give if one is asked for. -/
def update (now : Timestamp) (fresh : Key) (id : Uuid) (req : UpdatePeer) :
    Attempt ServiceFault (World κ σ δ) Peer := do
  let before ← s.storedPeer id
  let m ← s.device before.deviceId
  let peer := { (before.withFields req).withDefaults s.defaults with
    presharedKey := before.presharedKeyAfter req fresh }
  .ofExcept .validation peer.validate
  let networks ← .ofExcept .peer peer.allowedNetworks
  Reconciler.onPeers .ofStore (s.reconciler.peers.update peer)
  if peer.isEnabled then s.apply m.device.name (peer.updateChange before networks)
  s.overlay now m.device peer

/-- Releases the addresses of a peer, drops the peer, and takes it out of the kernel if it was
enabled. Addresses that are not the peer's stay reserved. -/
def remove (id : Uuid) : Attempt ServiceFault (World κ σ δ) Unit := do
  let peer ← s.storedPeer id
  let m ← s.device peer.deviceId
  let pool ← .ofExcept .ofDevice m.getPool
  let ips ← .ofExcept .peer peer.reservedIps
  let (released, pool) := pool.releaseAllFor peer.id ips
  Reconciler.register { m with pool := some pool }
  persist { m with pool := some (pool.reserveAllFor released (.peer peer.id)) }
    (s.reconciler.peers.remove id)
  if peer.isEnabled then s.apply m.device.name (.removal peer.publicKey)

/-- Enables a disabled peer: claims its addresses, stores it as enabled and installs it. -/
def enableSteps (peer : Peer) : Attempt ServiceFault (World κ σ δ) Unit := do
  let m ← s.device peer.deviceId
  let pool ← .ofExcept .ofDevice m.getPool
  let networks ← .ofExcept .peer peer.allowedNetworks
  let (claimed, pool) := pool.claim (networks.map Cidr.ip) peer.id
  let claimed ← .ofExcept .pool claimed
  Reconciler.register { m with pool := some pool }
  persist { m with pool := some (pool.releaseAll claimed) }
    (s.reconciler.peers.update { peer with isEnabled := true })
  s.apply m.device.name (peer.changeFor networks)

/-- Disables an enabled peer: stores it as disabled and takes it out of the kernel. It keeps its
addresses. -/
def disableSteps (peer : Peer) : Attempt ServiceFault (World κ σ δ) Unit := do
  let m ← s.device peer.deviceId
  let _ ← .ofExcept .ofDevice m.getPool
  Reconciler.onPeers .ofStore (s.reconciler.peers.update { peer with isEnabled := false })
  s.apply m.device.name (.removal peer.publicKey)

/-- Enables a peer, unless it is enabled. -/
def enable (id : Uuid) : Attempt ServiceFault (World κ σ δ) Unit := do
  let peer ← s.storedPeer id
  if peer.isEnabled then return () else s.enableSteps peer

/-- Disables a peer, unless it is disabled. -/
def disable (id : Uuid) : Attempt ServiceFault (World κ σ δ) Unit := do
  let peer ← s.storedPeer id
  if peer.isEnabled then s.disableSteps peer else return ()

/-! ## Questions -/

/-- A peer, with what the kernel tells of it if it is enabled. -/
def get (now : Timestamp) (id : Uuid) : Attempt ServiceFault (World κ σ δ) Peer := do
  let peer ← s.storedPeer id
  if peer.isEnabled then
    let m ← s.device peer.deviceId
    s.overlay now m.device peer
  else return peer

/-- The live states of devices, as far as they can be read. -/
def snapshots : List Uuid → Attempt ServiceFault (World κ σ δ) (List (Uuid × Option Snapshot))
  | [] => return []
  | id :: rest => do
    let snapshot ← match ← Attempt.capture (s.device id) with
      | .ok m => s.snapshot? m.device
      | .error (_ : ServiceFault) => pure none
    let others ← snapshots rest
    return (id, snapshot) :: others

/-- The devices of the enabled peers, each once, in order. -/
def devicesOf (peers : List Peer) : List Uuid :=
  ((peers.filter Peer.isEnabled).map Peer.deviceId).eraseDups

/-- A page of peers. Each device with an enabled peer on the page is read once. -/
def list (now : Timestamp) (query : PeerQuery) : Attempt ServiceFault (World κ σ δ) (Page Peer) := do
  let limit ← .ofExcept .validation (pageLimit query.limit)
  let page ← Reconciler.ask .ofStore fun w => s.reconciler.peers.list w.peers { query with limit }
  let snapshots ← s.snapshots (devicesOf page.items)
  return page.map fun p =>
    if p.isEnabled then overlaid now ((snapshots.lookup p.deviceId).bind fun t => t) p else p

def clientDocument (id : Uuid) : Attempt ServiceFault (World κ σ δ) String := do
  let peer ← s.storedPeer id
  let m ← s.device peer.deviceId
  return Document.client peer m.device s.defaults.clientRoutes

/-- The document that a peer imports, as a file. -/
def downloadDocument (id : Uuid) : Attempt ServiceFault (World κ σ δ) (Download String) := do
  return ⟨id.text ++ ".conf", ← s.clientDocument id⟩

/-- The picture code of the document that a peer imports, by its side, as a file. -/
def downloadPicture (id : Uuid) : Attempt ServiceFault (World κ σ δ) (Download Nat) := do
  let document ← s.clientDocument id
  let side ← .ofExcept .qr (Qr.pictureSide document)
  return ⟨id.text ++ ".svg", side⟩

end PeerService

end TunnelKeeper
