import TunnelKeeper.Kernel.Gateway
import TunnelKeeper.Netlink.Request

/-!
The way to a kernel over its sockets: one for links, one for tunnels and one for addresses. Each call
of a gateway is a sequence of requests, and ends at the first that fails. The kernel here is a table
of links that remembers its requests and can be told to let steps fail.
-/

namespace TunnelKeeper

namespace Netlink

/-- A step that can fail. -/
inductive Step
  | openLinks
  | openTunnels
  /-- The question about the family of tunnels, with which their socket starts. -/
  | family
  | openAddresses
  | request (kind : RequestKind)
  deriving DecidableEq, Repr

/-- A kernel behind its sockets. -/
structure Kernel where
  table : LinkTable
  failing : List Step
  /-- The requests that were made, in order. -/
  requests : List Request

/-- A kernel with these links where no step fails. -/
def Kernel.ofTable (table : LinkTable) : Kernel := ⟨table, [], []⟩

variable {α : Type}

/-- What a step that fails makes of a call. -/
def failure (s : Step) : KernelError :=
  if s = .openAddresses then .io "the socket cannot be opened"
  else .interface "the request was refused"

def openSocket (s : Step) : Attempt KernelError Kernel Unit := fun k =>
  if k.failing.contains s then (.error (failure s), k) else (.ok (), k)

def openLinks : Attempt KernelError Kernel Unit := openSocket .openLinks

def openTunnels : Attempt KernelError Kernel Unit := do
  openSocket .openTunnels
  openSocket .family

def openAddresses : Attempt KernelError Kernel Unit := openSocket .openAddresses

/-- Makes a request with this effect on the links; none is a refusal. -/
def send (r : Request) (effect : LinkTable → Option (α × LinkTable)) :
    Attempt KernelError Kernel α := fun k =>
  let k := { k with requests := k.requests ++ [r] }
  if k.failing.contains (.request r.kind) then (.error (failure (.request r.kind)), k)
  else match effect k.table with
    | some (a, table) => (.ok a, { k with table })
    | none => (.error (failure (.request r.kind)), k)

/-! ## Requests -/

/-- The names of the links that are tunnels. -/
def listTunnels : Attempt KernelError Kernel (List String) :=
  send .listLinks fun t => some ((t.links.filter Link.isTunnel).map Link.name, t)

def addTunnel (name : String) : Attempt KernelError Kernel Unit :=
  send (.addLink name Link.tunnelKind) fun t => (t.add? name Link.tunnelKind).map fun t => ((), t)

def deleteTunnel (name : String) : Attempt KernelError Kernel Unit :=
  send (.deleteLink name Link.tunnelKind) fun t => some ((), t.delete name)

def getIndex (name : String) : Attempt KernelError Kernel Nat :=
  send (.getLink name) fun t => (t.find? name).map fun l => (l.index, t)

def bringUp (index : Nat) : Attempt KernelError Kernel Unit :=
  send (.setLink index true) fun t =>
    some ((), t.change (·.index = index) fun l => { l with up := true })

def listAddresses (index : Nat) : Attempt KernelError Kernel (List Cidr) :=
  send .listAddresses fun t =>
    some ((t.addresses.filter fun a => a.1 = index).map Prod.snd, t)

def addAddress (index : Nat) (address : Cidr) : Attempt KernelError Kernel Unit :=
  send (.addAddress index address) fun t => (t.addAddress? index address).map fun t => ((), t)

/-- Takes addresses from a link, one after another. -/
def deleteAddresses (index : Nat) : List Cidr → Attempt KernelError Kernel Unit
  | [] => return ()
  | a :: rest => do
    send (.deleteAddress index a) fun t => some ((), t.deleteAddress index a)
    deleteAddresses index rest

def getTunnel (name : String) : Attempt KernelError Kernel Link :=
  send (.getTunnel name) fun t => (t.tunnel? name).map fun l => (l, t)

def setTunnel (name : String) (s : TunnelSetting) : Attempt KernelError Kernel Unit :=
  send (.setTunnel name s) fun t =>
    (t.tunnel? name).map fun _ => ((), t.change (·.name = name) s.applyTo)

/-! ## Calls -/

/-- Whether there is a tunnel of a name. The call passes on every error that it gets, but the library
that lists the links takes a refusal for an empty listing. -/
def tunnelExists (name : String) : Attempt KernelError Kernel Bool := do
  openLinks
  let names ← Attempt.capture listTunnels
  return (names.toOption.getD []).contains name

/-- Fails unless there is a tunnel of a name. -/
def requireTunnel (name : String) : Attempt KernelError Kernel Unit := do
  if ← tunnelExists name then return () else .fail (.deviceNotFound name)

/-- Creates a tunnel, unless it is there. -/
def ensureTunnel (name : String) : Attempt KernelError Kernel Unit := do
  if ← tunnelExists name then return ()
  else
    openLinks
    addTunnel name

/-- Makes an address the only one of a link. -/
def assignAddress (name : String) (address : Cidr) : Attempt KernelError Kernel Unit := do
  openAddresses
  let index ← getIndex name
  deleteAddresses index (← listAddresses index)
  addAddress index address

/-- Brings a link up over a socket of its own. -/
def setUp (name : String) : Attempt KernelError Kernel Unit := do
  openAddresses
  bringUp (← getIndex name)

def readTunnel (name : String) : Attempt KernelError Kernel Snapshot := do
  requireTunnel name
  openTunnels
  match (← getTunnel name).snapshot? with
  | some s => return s
  | none => .fail (.interface "a handshake lies before the start of time")

def gateway : Gateway Kernel where
  read := readTunnel
  configure name changes := do
    requireTunnel name
    openTunnels
    setTunnel name (.ofChanges changes)
  provision name settings := do
    ensureTunnel name
    openTunnels
    setTunnel name (.ofInterface settings)
    assignAddress name settings.address
    setUp name
  remove name := do
    if ← tunnelExists name then
      openLinks
      deleteTunnel name

end Netlink

end TunnelKeeper
