import TunnelKeeper.FileEntry
import TunnelKeeper.Reconcile.Reconciler
import TunnelKeeper.Toml.Reader

/-!
The configuration of the daemon: where the state file is, what passes go by, and the devices. It is
read from a TOML file, in which members that are not known are passed over. No two devices have one
name or one identifier.
-/

namespace TunnelKeeper

/-- The configuration of the daemon. -/
structure Config where
  stateFile : String
  policy : Policy
  devices : List Device
  deriving DecidableEq

/-- Why there is no configuration. -/
inductive ConfigError
  /-- The file is not there, or is not a text. -/
  | unreadable
  | malformed
  | duplicateName (name : String)
  | duplicateId (id : Uuid)
  deriving DecidableEq

def ConfigError.message : ConfigError → String
  | .unreadable => "failed to read config"
  | .malformed => "failed to parse config"
  | .duplicateName name => "duplicate device name: " ++ name
  | .duplicateId id => "duplicate device id: " ++ id.text

namespace Config

/-- The path of the state file when none is configured. -/
def defaultStateFile : String := "/var/lib/wgsync/peers.json"

/-! ## Reading -/

def readPolicy? (t : Toml) : Option Policy := do
  let m ← t.members? ["abort_on_invalid_peer", "reserved_addresses"]
  let abort ← m.defaulted? "abort_on_invalid_peer" Policy.default.abortOnInvalidPeer Toml.bool?
  let reserved ← m.defaulted? "reserved_addresses" Policy.default.reservedAddresses.toNat
    (Toml.nat? 4294967295)
  return ⟨abort, UInt32.ofNat reserved⟩

/-- The names of the members of a device, in order. -/
def deviceNames : List String :=
  ["id", "name", "private_key", "listen_port", "firewall_mark", "address", "endpoint",
    "description", "dns", "mtu", "table", "persistent_keepalive", "pre_up", "post_up", "pre_down",
    "post_down"]

def readDevice? (t : Toml) : Option Device := do
  let m ← t.members? deviceNames
  let text name := m.defaulted? name "" Toml.string?
  let number name bound := m.defaulted? name 0 (Toml.nat? bound)
  let id ← m.required? "id" fun v => v.string?.bind fun s => Uuid.parse? s.toList
  let name ← m.required? "name" Toml.string?
  let privateKey ← m.required? "private_key" fun v => v.string?.bind fun s => (Key.parse s).toOption
  let listenPort ← m.required? "listen_port" (Toml.nat? 65535)
  let firewallMark ← number "firewall_mark" 4294967295
  let address ← m.required? "address" Toml.string?
  let endpoint ← m.required? "endpoint" Toml.string?
  let description ← text "description"
  let dns ← text "dns"
  let mtu ← number "mtu" 4294967295
  let table ← text "table"
  let keepalive ← number "persistent_keepalive" 18446744073709551615
  let preUp ← text "pre_up"
  let postUp ← text "post_up"
  let preDown ← text "pre_down"
  let postDown ← text "post_down"
  return { Device.new id name privateKey with
    description
    listenPort := UInt16.ofNat listenPort
    firewallMark := UInt32.ofNat firewallMark
    endpoint
    address
    mtu := UInt32.ofNat mtu
    dns
    table
    keepalive := .ofSeconds (UInt64.ofNat keepalive)
    preUp
    postUp
    preDown
    postDown }

/-- Reads a configuration, whose devices may still repeat each other. -/
def read? (t : Toml) : Option Config := do
  let m ← t.members? ["state_file", "reconcile", "devices"]
  let stateFile ← m.defaulted? "state_file" defaultStateFile Toml.string?
  let policy ← m.defaulted? "reconcile" Policy.default readPolicy?
  let devices ← m.defaulted? "devices" [] (Toml.list? readDevice?)
  return ⟨stateFile, policy, devices⟩

/-! ## Checking -/

/-- The first device that repeats one of those before it, of which `earlier` are known. A device that
repeats both a name and an identifier is refused for the name. -/
def repetition? (earlier : List Device) : List Device → Option ConfigError
  | [] => none
  | d :: rest =>
    if earlier.any fun e => e.name = d.name then some (.duplicateName d.name)
    else if earlier.any fun e => e.id = d.id then some (.duplicateId d.id)
    else repetition? (d :: earlier) rest

def parse (text : String) : Except ConfigError Config :=
  match (Toml.parse? text).bind read? with
  | none => .error .malformed
  | some config =>
    match repetition? [] config.devices with
    | some e => .error e
    | none => .ok config

def load : FileEntry → Except ConfigError Config
  | .text content => parse content
  | _ => .error .unreadable

end Config

end TunnelKeeper
