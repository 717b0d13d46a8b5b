import TunnelKeeper.Device.Basic
import TunnelKeeper.Kernel.Changes
import TunnelKeeper.Peer.Basic

/-!
One pass over the stored peers of a device, as a plan: given what the kernel has, each peer gets a
verdict, and the verdicts make up the changes to send to the kernel. The pool starts with what the
device and the kernel take up, and each peer claims its addresses in the order of the listing.
-/

namespace TunnelKeeper

/-- What a pass makes of a stored peer. -/
inductive Verdict
  /-- The record is faulty, for this reason. -/
  | invalid (reason : String)
  /-- An address it declares is someone else's. -/
  | conflicting
  /-- Enabled and missing in the kernel: installed by this change. -/
  | pushed (change : PeerChange)
  /-- Disabled and still in the kernel: taken out by this change. -/
  | removed (change : PeerChange)
  /-- Enabled and in the kernel. -/
  | present
  /-- Disabled and not in the kernel. -/
  | dormant
  deriving DecidableEq

namespace Verdict

def change? : Verdict → Option PeerChange
  | .pushed c => some c
  | .removed c => some c
  | _ => none

def reason? : Verdict → Option String
  | .invalid reason => some reason
  | _ => none

def isPushed : Verdict → Bool
  | .pushed _ => true
  | _ => false

def isRemoved : Verdict → Bool
  | .removed _ => true
  | _ => false

end Verdict

namespace Pass

/-- The stored peer that a key of the kernel's belongs to: of several, the last of the listing. -/
def owner? (stored : List Peer) (key : Key) : Option Uuid :=
  (stored.findRev? fun p => p.publicKey = key).map Peer.id

/-- For whom the addresses of a kernel peer are reserved. -/
def holderOf (stored : List Peer) (k : KernelPeer) : Holder :=
  match owner? stored k.publicKey with
  | some id => .peer id
  | none => .kernel

/-- Reserves what the kernel's peers take up, as far as it is free. -/
def reserveKernel (stored : List Peer) (pool : AddressPool) (peers : List KernelPeer) :
    AddressPool :=
  peers.foldl (fun p k => p.reserveAllFor (k.allowedIps.map Cidr.ip) (holderOf stored k)) pool

/-- The networks of a peer, or the fault of its record. -/
def check (p : Peer) : Except String (List Cidr) :=
  match p.validate with
  | .error e => .error e.message
  | .ok () => p.allowedNetworks.mapError PeerError.message

/-- The verdict on a peer, and the pool after it. A disabled peer keeps its addresses if it can. -/
def judge (snapshot : Snapshot) (pool : AddressPool) (p : Peer) : Verdict × AddressPool :=
  match check p with
  | .error reason => (.invalid reason, pool)
  | .ok networks =>
    let inKernel := (snapshot.peer? p.publicKey).isSome
    let ips := networks.map Cidr.ip
    if p.isEnabled then
      if inKernel then (.present, pool)
      else
        match pool.claim ips p.id with
        | (.ok _, pool) => (.pushed (p.changeFor networks), pool)
        | (.error _, pool) => (.conflicting, pool)
    else
      let pool := (pool.claim ips p.id).2
      if inKernel then (.removed (.removal p.publicKey), pool) else (.dormant, pool)

/-- The verdicts on peers in order, and the pool after them. -/
def judgeAll (snapshot : Snapshot) : AddressPool → List Peer → List (Peer × Verdict) × AddressPool
  | pool, [] => ([], pool)
  | pool, p :: rest =>
    let (verdict, pool) := judge snapshot pool p
    let (verdicts, pool) := judgeAll snapshot pool rest
    ((p, verdict) :: verdicts, pool)

/-- The changes that verdicts call for, in order. -/
def changes (verdicts : List (Peer × Verdict)) : List PeerChange :=
  verdicts.filterMap fun (_, v) => v.change?

def invalid (verdicts : List (Peer × Verdict)) : List (Uuid × String) :=
  verdicts.filterMap fun (p, v) => v.reason?.map fun reason => (p.id, reason)

def idsWhere (select : Verdict → Bool) (verdicts : List (Peer × Verdict)) : List Uuid :=
  (verdicts.filter fun (_, v) => select v).map fun (p, _) => p.id

end Pass

end TunnelKeeper
