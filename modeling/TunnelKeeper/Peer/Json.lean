import TunnelKeeper.Json.Record
import TunnelKeeper.Peer.Row

/-!
The JSON form of a stored peer. The preshared key is left out when there is none; a text field, the
size of a packet and the keepalive have a default when they are missing.
-/

namespace TunnelKeeper.PeerRow

def toJson (r : PeerRow) : Json :=
  .ofMembers <|
    [("id", .ofString r.id),
      ("device_id", .ofString r.deviceId),
      ("private_key", .ofString r.privateKey),
      ("public_key", .ofString r.publicKey),
      ("has_preshared_key", .bool r.hasPresharedKey)]
    ++ (r.presharedKey.map fun k => ("preshared_key", Json.ofString k)).toList ++
    [("allowed_ips", .array (r.allowedIps.map .ofString)),
      ("dns", .ofString r.dns),
      ("mtu", .ofNat r.mtu.toNat),
      ("persistent_keepalive_secs", .ofNat r.keepaliveSeconds.toNat),
      ("name", .ofString r.name),
      ("email", .ofString r.email),
      ("description", .ofString r.description),
      ("tags", .array (r.tags.map .ofString)),
      ("is_enabled", .bool r.isEnabled)]

/-- The names of the members of a row, in order. -/
def memberNames : List String :=
  ["id", "device_id", "private_key", "public_key", "has_preshared_key", "preshared_key",
    "allowed_ips", "dns", "mtu", "persistent_keepalive_secs", "name", "email", "description", "tags",
    "is_enabled"]

def texts? : Json → Option (List String) := Json.list? Json.string?

def ofJson? (j : Json) : Option PeerRow := do
  let m ← j.members? memberNames
  let id ← m.required? "id" Json.string?
  let deviceId ← m.required? "device_id" Json.string?
  let privateKey ← m.required? "private_key" Json.string?
  let publicKey ← m.required? "public_key" Json.string?
  let hasPresharedKey ← m.required? "has_preshared_key" Json.bool?
  let presharedKey ← m.defaulted? "preshared_key" none (Json.option? Json.string?)
  let allowedIps ← m.required? "allowed_ips" texts?
  let dns ← m.defaulted? "dns" "" Json.string?
  let mtu ← m.defaulted? "mtu" 0 (Json.nat? 4294967295)
  let keepalive ← m.defaulted? "persistent_keepalive_secs" 0 (Json.nat? 18446744073709551615)
  let name ← m.defaulted? "name" "" Json.string?
  let email ← m.defaulted? "email" "" Json.string?
  let description ← m.defaulted? "description" "" Json.string?
  let tags ← m.defaulted? "tags" [] texts?
  let isEnabled ← m.required? "is_enabled" Json.bool?
  return {
    id
    deviceId
    privateKey
    publicKey
    hasPresharedKey
    presharedKey
    allowedIps
    dns
    mtu := UInt32.ofNat mtu
    keepaliveSeconds := UInt64.ofNat keepalive
    name
    email
    description
    tags
    isEnabled }

end TunnelKeeper.PeerRow
