import TunnelKeeper.Device.Endpoint
import TunnelKeeper.Kernel.Snapshot
import TunnelKeeper.Pool
import TunnelKeeper.Text.Quoted
import TunnelKeeper.Validation

/-!
Devices: the interfaces that peers connect to. What the kernel reports about a device and what is
computed from its address are kept apart from what is configured. A managed device has the pool of
its block beside it.
-/

namespace TunnelKeeper

/-- Why a device cannot do its work. -/
inductive DeviceError
  | invalidAddress (text : String)
  | poolNotInitialised (name : String)
  | pool (error : PoolError)
  deriving DecidableEq

def DeviceError.message : DeviceError → String
  | .invalidAddress text => "address " ++ Text.quoted text ++ " is not a valid CIDR"
  | .poolNotInitialised name => "address pool of device " ++ name ++ " is not initialised"
  | .pool e => e.message

/-- What is known of a device beyond its configuration. -/
structure DeviceStatus where
  kind : DeviceKind
  /-- The mark that the kernel has, which may lag behind the configured one. -/
  kernelMark : UInt32
  /-- The number of peers that its block has room for. -/
  maxPeers : Nat
  /-- The number of peers that the kernel has. -/
  currentPeers : Nat
  deriving DecidableEq

def DeviceStatus.unknown : DeviceStatus := ⟨.unknown, 0, 0, 0⟩

structure Device where
  id : Uuid
  name : String
  description : String
  privateKey : Key
  publicKey : Key
  listenPort : UInt16
  firewallMark : UInt32
  /-- Where clients reach the device. -/
  endpoint : String
  address : String
  mtu : UInt32
  dns : String
  table : String
  keepalive : Duration
  preUp : String
  postUp : String
  preDown : String
  postDown : String
  /-- What is known beyond the configuration. -/
  status : DeviceStatus
  deriving DecidableEq

/-- Reads the address of a device: a block, with the slash, less the white space around it. -/
def readDeviceAddress (s : String) : Except DeviceError Cidr :=
  if s.toList.contains '/' then
    match Cidr.parse? (Text.trimmed s.toList) with
    | some c => .ok c
    | none => .error (.invalidAddress s)
  else .error (.invalidAddress s)

/-- The number of addresses of the block, as far as it fits two words. -/
def Cidr.boundedSize (c : Cidr) : Nat :=
  if 128 ≤ c.hostBits then Nat.pow 2 128 - 1 else Nat.shiftLeft 1 c.hostBits

/-- The number of addresses of the block beyond `reserved`, as far as it fits a word. -/
def Cidr.capacity (c : Cidr) (reserved : Nat) : Nat :=
  if c.boundedSize - reserved < UInt64.size then c.boundedSize - reserved else UInt64.size - 1

namespace Device

/-- The number of addresses that are not for peers: the first and the last of the block, and the
device's own. -/
def defaultReserved : UInt32 := 3

/-- A device with this key and the public key that belongs to it, and nothing else. -/
def new (id : Uuid) (name : String) (privateKey : Key) : Device where
  id
  name
  description := ""
  privateKey
  publicKey := privateKey.publicKey
  listenPort := 0
  firewallMark := 0
  endpoint := ""
  address := ""
  mtu := 0
  dns := ""
  table := ""
  keepalive := .zero
  preUp := ""
  postUp := ""
  preDown := ""
  postDown := ""
  status := .unknown

/-- The block of the device, named by its own address. -/
def network (d : Device) : Except DeviceError Cidr := readDeviceAddress d.address

def ownIp (d : Device) : Except DeviceError IpAddress := d.network.map Cidr.ip

def endpointViolations (d : Device) : List Violation :=
  if d.endpoint = "" then [⟨"endpoint", "endpoint should not be empty"⟩]
  else if isEndpoint d.endpoint then []
  else [⟨"endpoint", "endpoint is not a valid host or IP address with port"⟩]

def addressViolations (d : Device) : List Violation :=
  if d.address = "" then [⟨"address", "address should not be empty"⟩]
  else match d.network with
    | .ok _ => []
    | .error _ => [⟨"address", "address is not a valid CIDR IP address"⟩]

def violations (d : Device) : List Violation :=
  d.endpointViolations ++ d.addressViolations ++ Validation.checkDns d.dns
    ++ Validation.checkMaxLength "description" d.description 40

def validate (d : Device) : Except ValidationError Unit :=
  Validation.result ("device " ++ d.name) d.violations

def withSnapshot (d : Device) (s : Snapshot) : Device :=
  { d with
    status := { d.status with
      kind := s.kind, kernelMark := s.firewallMark, currentPeers := s.peers.length } }

/-- The device with the number of peers that its block has room for. -/
def withCapacity (d : Device) (reserved : UInt32) : Except DeviceError Device :=
  d.network.map fun c =>
    { d with status := { d.status with maxPeers := c.capacity reserved.toNat } }

/-- The first pool of the device: the first and the last address of its block and its own address
are reserved. -/
def initialPool (d : Device) : Except DeviceError AddressPool :=
  d.network.map fun c => (((AddressPool.new c).reserve c.ip).2.reserve c.broadcast).2

def settings (d : Device) : Except DeviceError InterfaceSettings :=
  d.network.map fun c => ⟨d.privateKey, d.listenPort, d.firewallMark, c⟩

end Device

/-- A device with the pool of its block, if there is one. -/
structure ManagedDevice where
  device : Device
  pool : Option AddressPool

namespace ManagedDevice

def getPool (m : ManagedDevice) : Except DeviceError AddressPool :=
  match m.pool with
  | some p => .ok p
  | none => .error (.poolNotInitialised m.device.name)

/-- The device with its pool changed, if there is one. -/
def mapPool (f : AddressPool → AddressPool) (m : ManagedDevice) : ManagedDevice :=
  { m with pool := m.pool.map f }

/-- Allocates the lowest free address of the device's block for `holder`. -/
def allocate (m : ManagedDevice) (holder : Holder) : Except DeviceError Cidr × ManagedDevice :=
  match m.device.network with
  | .error e => (.error e, m)
  | .ok block =>
    match m.getPool with
    | .error e => (.error e, m)
    | .ok pool =>
      let (r, pool) := pool.allocateFor block holder
      (r.mapError .pool, { m with pool := some pool })

end ManagedDevice

end TunnelKeeper
