import TunnelKeeper.Json.Record
import TunnelKeeper.Kernel.Snapshot
import TunnelKeeper.Validation

/-!
The JSON forms of what the kernel tells and is told. Keys, addresses and points in time are strings;
a length of time is an object of seconds and nanoseconds.
-/

namespace TunnelKeeper

/-- The number of a member that fits so many bits. -/
def Json.word? (bits : Nat) : Json → Option Nat := Json.nat? (Nat.pow 2 bits - 1)

def Json.text? {α : Type} (read : List Char → Option α) (j : Json) : Option α :=
  j.string?.bind fun s => read s.toList

namespace Key

def toJson (k : Key) : Json := .ofString k.text

def ofJson? (j : Json) : Option Key := j.string?.bind fun s => (Key.parse s).toOption

end Key

namespace Duration

/-- The JSON form of a length of time. -/
def toJson (d : Duration) : Json :=
  .ofMembers [("secs", .ofNat d.seconds.toNat), ("nanos", .ofNat d.nanoseconds)]

/-- Reads the JSON form of a length of time, which has no other members. -/
def ofJson? (j : Json) : Option Duration := do
  let m ← j.members? ["secs", "nanos"]
  let secs ← m.required? "secs" (Json.word? 64)
  let nanos ← m.required? "nanos" (Json.word? 32)
  match j with
  | .object [_, _] => make? (UInt64.ofNat secs) nanos
  | .array _ => make? (UInt64.ofNat secs) nanos
  | _ => none

end Duration

namespace DeviceKind

/-- The JSON form of a kind of device. -/
def toJson (k : DeviceKind) : Json := .ofString k.text

/-- Reads the JSON form of a kind of device. -/
def ofJson? (j : Json) : Option DeviceKind := j.caseName?.bind ofText?

end DeviceKind

namespace KernelPeer

def toJson (p : KernelPeer) : Json :=
  .ofMembers
    [("public_key", p.publicKey.toJson),
      ("preshared_key", .ofOption Key.toJson p.presharedKey),
      ("endpoint", .ofOption (fun e => .ofString e.text) p.endpoint),
      ("persistent_keepalive", p.keepalive.toJson),
      ("last_handshake", .ofOption (fun t => .ofString t.text) p.lastHandshake),
      ("rx_bytes", .ofNat p.rxBytes.toNat),
      ("tx_bytes", .ofNat p.txBytes.toNat),
      ("allowed_ips", .array (p.allowedIps.map fun c => .ofString c.text)),
      ("protocol_version", .ofNat p.protocolVersion.toNat)]

/-- The names of the members of a peer, in order. -/
def memberNames : List String :=
  ["public_key", "preshared_key", "endpoint", "persistent_keepalive", "last_handshake", "rx_bytes",
    "tx_bytes", "allowed_ips", "protocol_version"]

def ofJson? (j : Json) : Option KernelPeer := do
  let m ← j.members? memberNames
  let publicKey ← m.required? "public_key" Key.ofJson?
  let presharedKey ← m.optional? "preshared_key" Key.ofJson?
  let endpoint ← m.optional? "endpoint" (Json.text? SocketAddress.parse?)
  let keepalive ← m.required? "persistent_keepalive" Duration.ofJson?
  let lastHandshake ← m.optional? "last_handshake" (Json.text? Timestamp.parse?)
  let rxBytes ← m.required? "rx_bytes" (Json.word? 64)
  let txBytes ← m.required? "tx_bytes" (Json.word? 64)
  let allowedIps ← m.required? "allowed_ips" (Json.list? (Json.text? Cidr.parse?))
  let protocolVersion ← m.required? "protocol_version" (Json.word? 32)
  return {
    publicKey
    presharedKey
    endpoint
    keepalive
    lastHandshake
    rxBytes := UInt64.ofNat rxBytes
    txBytes := UInt64.ofNat txBytes
    allowedIps
    protocolVersion := UInt32.ofNat protocolVersion }

end KernelPeer

namespace Snapshot

def toJson (s : Snapshot) : Json :=
  .ofMembers
    [("name", .ofString s.name),
      ("device_type", s.kind.toJson),
      ("private_key", .ofOption Key.toJson s.privateKey),
      ("public_key", .ofOption Key.toJson s.publicKey),
      ("listen_port", .ofNat s.listenPort.toNat),
      ("firewall_mark", .ofNat s.firewallMark.toNat),
      ("peers", .array (s.peers.map KernelPeer.toJson))]

/-- The names of the members of a live state, in order. -/
def memberNames : List String :=
  ["name", "device_type", "private_key", "public_key", "listen_port", "firewall_mark", "peers"]

/-- Reads the JSON form of a live state. -/
def ofJson? (j : Json) : Option Snapshot := do
  let m ← j.members? memberNames
  let name ← m.required? "name" Json.string?
  let kind ← m.required? "device_type" DeviceKind.ofJson?
  let privateKey ← m.optional? "private_key" Key.ofJson?
  let publicKey ← m.optional? "public_key" Key.ofJson?
  let listenPort ← m.required? "listen_port" (Json.word? 16)
  let firewallMark ← m.required? "firewall_mark" (Json.word? 32)
  let peers ← m.required? "peers" (Json.list? KernelPeer.ofJson?)
  return {
    name
    kind
    privateKey
    publicKey
    listenPort := UInt16.ofNat listenPort
    firewallMark := UInt32.ofNat firewallMark
    peers }

end Snapshot

namespace PeerChange

def toJson (c : PeerChange) : Json :=
  .ofMembers
    [("public_key", c.publicKey.toJson),
      ("preshared_key", .ofOption Key.toJson c.presharedKey),
      ("endpoint", .ofOption (fun e => .ofString e.text) c.endpoint),
      ("persistent_keepalive", .ofOption Duration.toJson c.keepalive),
      ("replace_allowed_ips", .bool c.replaceAllowedIps),
      ("allowed_ips", .array (c.allowedIps.map fun n => .ofString n.text)),
      ("update_only", .bool c.updateOnly),
      ("remove", .bool c.remove)]

/-- The names of the members of a change, in order. -/
def memberNames : List String :=
  ["public_key", "preshared_key", "endpoint", "persistent_keepalive", "replace_allowed_ips",
    "allowed_ips", "update_only", "remove"]

def ofJson? (j : Json) : Option PeerChange := do
  let m ← j.members? memberNames
  let publicKey ← m.required? "public_key" Key.ofJson?
  let presharedKey ← m.optional? "preshared_key" Key.ofJson?
  let endpoint ← m.optional? "endpoint" (Json.text? SocketAddress.parse?)
  let keepalive ← m.optional? "persistent_keepalive" Duration.ofJson?
  let replaceAllowedIps ← m.required? "replace_allowed_ips" Json.bool?
  let allowedIps ← m.required? "allowed_ips" (Json.list? (Json.text? Cidr.parse?))
  let updateOnly ← m.required? "update_only" Json.bool?
  let remove ← m.required? "remove" Json.bool?
  return {
    publicKey
    presharedKey
    endpoint
    keepalive
    replaceAllowedIps
    allowedIps
    updateOnly
    remove }

end PeerChange

namespace InterfaceSettings

def toJson (s : InterfaceSettings) : Json :=
  .ofMembers
    [("private_key", s.privateKey.toJson),
      ("listen_port", .ofNat s.listenPort.toNat),
      ("firewall_mark", .ofNat s.firewallMark.toNat),
      ("address", .ofString s.address.text)]

def ofJson? (j : Json) : Option InterfaceSettings := do
  let m ← j.members? ["private_key", "listen_port", "firewall_mark", "address"]
  let privateKey ← m.required? "private_key" Key.ofJson?
  let listenPort ← m.required? "listen_port" (Json.word? 16)
  let firewallMark ← m.required? "firewall_mark" (Json.word? 32)
  let address ← m.required? "address" (Json.text? Cidr.parse?)
  return ⟨privateKey, UInt16.ofNat listenPort, UInt32.ofNat firewallMark, address⟩

end InterfaceSettings

namespace Violation

def toJson (v : Violation) : Json :=
  .ofMembers [("field", .ofString v.field), ("description", .ofString v.description)]

def ofJson? (j : Json) : Option Violation := do
  let m ← j.members? ["field", "description"]
  return ⟨← m.required? "field" Json.string?, ← m.required? "description" Json.string?⟩

end Violation

end TunnelKeeper
