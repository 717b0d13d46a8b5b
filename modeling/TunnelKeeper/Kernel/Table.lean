import Std.Data.ExtTreeMap
import TunnelKeeper.Kernel.Changes
import TunnelKeeper.Kernel.Gateway

/-!
A kernel held in memory: a table of interfaces by name. It remembers the calls made to it, and can be
told to refuse some of them; a refused call has no effect.
-/

namespace TunnelKeeper

/-- The interfaces of a kernel, by name. -/
abbrev KernelTable := Std.ExtTreeMap String Snapshot

namespace KernelTable

/-- The table of these interfaces; of two with one name, the later. -/
def ofList (snapshots : List Snapshot) : KernelTable :=
  snapshots.foldl (fun (t : KernelTable) s => t.insert s.name s) ∅

/-- The interfaces in the order of their names. -/
def snapshots (t : KernelTable) : List Snapshot := t.toList.map Prod.snd

/-- The table after changes to the peers of the interface `s` under `name`. -/
def configured (t : KernelTable) (name : String) (s : Snapshot) (changes : List PeerChange) :
    KernelTable :=
  t.insert name { s with peers := PeerChange.applyAll changes s.peers }

/-- The table after an interface was given its settings. -/
def provisioned (t : KernelTable) (name : String) (settings : InterfaceSettings) : KernelTable :=
  let s := (t[name]?).getD ⟨name, .linuxKernel, none, none, 0, 0, []⟩
  t.insert name
    { s with
      privateKey := some settings.privateKey
      publicKey := some settings.privateKey.publicKey
      listenPort := settings.listenPort
      firewallMark := settings.firewallMark }

end KernelTable

/-- A kind of call to the kernel. -/
inductive KernelOperation
  | read
  | configure
  | provision
  | remove
  deriving DecidableEq, Repr

/-- An order to refuse a kind of call. -/
structure KernelFault where
  operation : KernelOperation
  /-- The interface they concern; none for all. -/
  device : Option String
  error : String → KernelError

/-- What was asked of the kernel. -/
inductive KernelRequest
  | read
  | configure (changes : List PeerChange)
  | provision (settings : InterfaceSettings)
  | remove

def KernelRequest.operation : KernelRequest → KernelOperation
  | .read => .read
  | .configure _ => .configure
  | .provision _ => .provision
  | .remove => .remove

/-- A call that was made. -/
structure KernelCall where
  request : KernelRequest
  /-- The interface it concerned. -/
  device : String
  /-- Whether it was refused by order. -/
  refused : Bool

structure MemoryKernel where
  table : KernelTable
  faults : List KernelFault
  calls : List KernelCall

namespace MemoryKernel

/-- A kernel with these interfaces that refuses nothing. -/
def ofTable (table : KernelTable) : MemoryKernel := ⟨table, [], []⟩

/-- The order that concerns a call, if there is one. -/
def fault? (k : MemoryKernel) (operation : KernelOperation) (device : String) :
    Option KernelFault :=
  k.faults.find? fun f => f.operation = operation && f.device.all (· = device)

/-- Orders to refuse a kind of call, in place of any earlier order about it. -/
def setFault (k : MemoryKernel) (operation : KernelOperation) (fault : Option KernelFault) :
    MemoryKernel :=
  { k with faults := fault.toList ++ k.faults.filter fun f => f.operation ≠ operation }

/-- Makes a call: notes it, and carries it out on the table unless it is to be refused. -/
def call {α : Type} (device : String) (request : KernelRequest)
    (effect : KernelTable → Except KernelError α × KernelTable) :
    Attempt KernelError MemoryKernel α := fun k =>
  match k.fault? request.operation device with
  | some f => (.error (f.error device), { k with calls := k.calls ++ [⟨request, device, true⟩] })
  | none =>
    let (r, table) := effect k.table
    (r, { k with table, calls := k.calls ++ [⟨request, device, false⟩] })

def gateway : Gateway MemoryKernel where
  read name := call name .read fun t =>
    match t[name]? with
    | some s => (.ok s, t)
    | none => (.error (.deviceNotFound name), t)
  configure name changes := call name (.configure changes) fun t =>
    match t[name]? with
    | some s => (.ok (), t.configured name s changes)
    | none => (.error (.deviceNotFound name), t)
  provision name settings := call name (.provision settings) fun t =>
    (.ok (), t.provisioned name settings)
  remove name := call name .remove fun t => (.ok (), t.erase name)

end MemoryKernel

end TunnelKeeper
