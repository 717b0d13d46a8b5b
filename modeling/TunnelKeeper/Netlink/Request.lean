import TunnelKeeper.Netlink.Link

/-!
Requests to a kernel over its sockets, and what they do to its links. A request that fails changes
nothing.
-/

namespace TunnelKeeper

/-! ## Settings of a tunnel -/

/-- The longest interval between keepalives that a kernel keeps, in seconds. -/
def maxKeepalive : Nat := 65535

/-- The seconds between keepalives, as a kernel keeps them. -/
def Duration.keepaliveSeconds (d : Duration) : UInt16 :=
  UInt16.ofNat (min maxKeepalive d.seconds.toNat)

/-- A setting of a peer of a tunnel. What is none is not sent, and stays as it is. -/
structure PeerSetting where
  publicKey : Key
  presharedKey : Option Key
  remove : Bool
  replaceAllowedIps : Bool
  updateOnly : Bool
  endpoint : Option SocketAddress
  keepalive : Option UInt16
  allowedIps : List Cidr
  deriving DecidableEq

namespace PeerSetting

def ofChange (c : PeerChange) : PeerSetting :=
  ⟨c.publicKey, c.presharedKey, c.remove, c.replaceAllowedIps, c.updateOnly, c.endpoint,
    c.keepalive.map Duration.keepaliveSeconds, c.allowedIps⟩

/-- The number whose bits are the flags of the setting. -/
def flags (s : PeerSetting) : Nat :=
  (if s.remove then 1 else 0) + (if s.replaceAllowedIps then 2 else 0)
    + (if s.updateOnly then 4 else 0)

/-- Ranges with those of `added` that are not among them. -/
def addRanges (ranges : List AllowedRange) (added : List Cidr) : List AllowedRange :=
  added.foldl (fun rs c =>
    if rs.contains (.ofCidr c) then rs else rs ++ [.ofCidr c]) ranges

def applyTo (s : PeerSetting) (p : LinkPeer) : LinkPeer :=
  { p with
    presharedKey := s.presharedKey.getD p.presharedKey
    endpoint := s.endpoint.or p.endpoint
    keepalive := s.keepalive.getD p.keepalive
    allowedIps := addRanges (if s.replaceAllowedIps then [] else p.allowedIps) s.allowedIps }

/-- The peers of a tunnel with the setting of the first that has its key. -/
def apply (s : PeerSetting) : List LinkPeer → List LinkPeer
  | [] => if s.remove || s.updateOnly then [] else [s.applyTo (.new s.publicKey)]
  | p :: ps =>
    if p.publicKey = s.publicKey then if s.remove then ps else s.applyTo p :: ps
    else p :: s.apply ps

end PeerSetting

/-- Settings of a tunnel. What is none is not sent, and stays as it is. -/
structure TunnelSetting where
  privateKey : Option Key
  listenPort : Option UInt16
  firewallMark : Option UInt32
  peers : List PeerSetting
  deriving DecidableEq

namespace TunnelSetting

/-- The settings of an interface, except for its address. A mark of zero is not sent. -/
def ofInterface (s : InterfaceSettings) : TunnelSetting :=
  ⟨some s.privateKey, some s.listenPort,
    if s.firewallMark = 0 then none else some s.firewallMark, []⟩

def ofChanges (changes : List PeerChange) : TunnelSetting :=
  ⟨none, none, none, changes.map PeerSetting.ofChange⟩

/-- The link `l` with the settings. The public key follows the private one. -/
def applyTo (s : TunnelSetting) (l : Link) : Link :=
  { l with
    privateKey := (s.privateKey.map Key.unlessZero).getD l.privateKey
    publicKey := (s.privateKey.map fun k => k.unlessZero.map Key.publicKey).getD l.publicKey
    listenPort := s.listenPort.getD l.listenPort
    firewallMark := s.firewallMark.getD l.firewallMark
    peers := s.peers.foldl (fun ps p => p.apply ps) l.peers }

end TunnelSetting

/-! ## Requests -/

inductive Request
  | listLinks
  | addLink (name kind : String)
  | deleteLink (name kind : String)
  | getLink (name : String)
  | setLink (index : Nat) (up : Bool)
  /-- Asks for the addresses of all links. -/
  | listAddresses
  | addAddress (index : Nat) (address : Cidr)
  | deleteAddress (index : Nat) (address : Cidr)
  | getTunnel (name : String)
  | setTunnel (name : String) (setting : TunnelSetting)
  deriving DecidableEq

inductive RequestKind
  | listLinks
  | addLink
  | deleteLink
  | getLink
  | setLink
  | listAddresses
  | addAddress
  | deleteAddress
  | getTunnel
  | setTunnel
  deriving DecidableEq, Repr

def Request.kind : Request → RequestKind
  | .listLinks => .listLinks
  | .addLink _ _ => .addLink
  | .deleteLink _ _ => .deleteLink
  | .getLink _ => .getLink
  | .setLink _ _ => .setLink
  | .listAddresses => .listAddresses
  | .addAddress _ _ => .addAddress
  | .deleteAddress _ _ => .deleteAddress
  | .getTunnel _ => .getTunnel
  | .setTunnel _ _ => .setTunnel

/-- The links of a kernel in the order in which they were created. -/
structure LinkTable where
  links : List Link
  next : Nat

namespace LinkTable

def find? (t : LinkTable) (name : String) : Option Link := t.links.find? fun l => l.name = name

def tunnel? (t : LinkTable) (name : String) : Option Link :=
  (t.find? name).filter Link.isTunnel

def change (t : LinkTable) (select : Link → Bool) (f : Link → Link) : LinkTable :=
  { t with links := t.links.map fun l => if select l then f l else l }

/-- Creates a link, unless its name is taken. -/
def add? (t : LinkTable) (name kind : String) : Option LinkTable :=
  match t.find? name with
  | some _ => none
  | none => some ⟨t.links ++ [.new t.next name kind], t.next + 1⟩

def delete (t : LinkTable) (name : String) : LinkTable :=
  { t with links := t.links.filter fun l => l.name ≠ name }

/-- Gives a link one more address, unless it has it. -/
def addAddress? (t : LinkTable) (index : Nat) (address : Cidr) : Option LinkTable :=
  if t.links.any fun l => l.index = index && l.addresses.contains address then none
  else some (t.change (·.index = index) fun l => { l with addresses := l.addresses ++ [address] })

def deleteAddress (t : LinkTable) (index : Nat) (address : Cidr) : LinkTable :=
  t.change (·.index = index) fun l => { l with addresses := l.addresses.erase address }

/-- The addresses of all links, with the numbers of the links. -/
def addresses (t : LinkTable) : List (Nat × Cidr) :=
  t.links.flatMap fun l => l.addresses.map fun a => (l.index, a)

end LinkTable

end TunnelKeeper
