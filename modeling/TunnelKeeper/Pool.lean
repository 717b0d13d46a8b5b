import TunnelKeeper.Net.Cidr
import TunnelKeeper.Uuid

/-!
The pool of a block's addresses: which of them are reserved, and for whom. An address is reserved
once; whoever asks for it later is refused until it is released. Allocation hands out the lowest
address of a block that is free and is neither its first nor its last.
-/

namespace TunnelKeeper

instance : Ord IpAddress := ⟨fun a b => compare a.octets b.octets⟩

theorem IpAddress.ext_octets {a b : IpAddress} (h : a.octets = b.octets) : a = b := by
  cases a with
  | mk f os hl =>
    cases b with
    | mk f' os' hl' =>
      obtain rfl : os = os' := h
      have : f.size = f'.size := hl.symm.trans hl'
      cases f <;> cases f' <;> simp_all [Family.size]

instance : Std.TransOrd IpAddress where
  eq_swap := by
    intro a b
    exact Std.OrientedOrd.eq_swap (a := a.octets) (b := b.octets)
  isLE_trans := by
    intro a b c h h'
    exact Std.TransOrd.isLE_trans (a := a.octets) (b := b.octets) (c := c.octets) h h'

instance : Std.LawfulEqOrd IpAddress where
  eq_of_compare := by
    intro a b h
    exact IpAddress.ext_octets (Std.LawfulEqOrd.eq_of_compare h)

/-- Whom a reserved address belongs to. -/
inductive Holder
  /-- The device: the first and the last address of its block, and its own. -/
  | device
  /-- A peer of the kernel's that no stored record describes. -/
  | kernel
  | peer (id : Uuid)
  deriving DecidableEq

def Holder.text : Holder → String
  | .device => "the device"
  | .kernel => "an unrecorded kernel peer"
  | .peer id => "peer " ++ id.text

instance : ToString Holder := ⟨Holder.text⟩

inductive PoolError
  /-- Every address of the block is taken. -/
  | runOutOfAddresses (block : Cidr)
  | ipNotFound (ip : IpAddress)
  /-- The address is reserved for someone else. -/
  | heldByOther (ip : IpAddress) (holder : Holder)
  deriving DecidableEq

def PoolError.message : PoolError → String
  | .runOutOfAddresses block => "run out of addresses in " ++ block.text
  | .ipNotFound ip => "ip " ++ ip.text ++ " not found among reserved ips"
  | .heldByOther ip holder => "ip " ++ ip.text ++ " is held by " ++ holder.text

/-- The reserved addresses of a block. -/
structure AddressPool where
  block : Cidr
  holders : Std.ExtTreeMap IpAddress Holder

namespace AddressPool

def holder? (p : AddressPool) (ip : IpAddress) : Option Holder := p.holders[ip]?

def contains (p : AddressPool) (ip : IpAddress) : Bool := (p.holder? ip).isSome

def count (p : AddressPool) : Nat := p.holders.size

/-- The pool with `ip` held by `holder`, whoever held it. -/
def put (p : AddressPool) (ip : IpAddress) (holder : Holder) : AddressPool :=
  { p with holders := p.holders.insert ip holder }

/-- The pool with `ip` held by nobody. -/
def drop (p : AddressPool) (ip : IpAddress) : AddressPool :=
  { p with holders := p.holders.erase ip }

/-- The pool of `block` in which its first and its last address are reserved for the device. -/
def new (block : Cidr) : AddressPool :=
  ((⟨block, ∅⟩ : AddressPool).put block.network .device).put block.broadcast .device

/-- Reserves `ip` for `holder` unless it is reserved already, and tells whether it did. -/
def reserveFor (p : AddressPool) (ip : IpAddress) (holder : Holder) : Bool × AddressPool :=
  if p.contains ip then (false, p) else (true, p.put ip holder)

def reserve (p : AddressPool) (ip : IpAddress) : Bool × AddressPool := p.reserveFor ip .device

/-- The first address of `ips` that someone other than `peer` holds. -/
def conflict? (p : AddressPool) (peer : Uuid) : List IpAddress → Option (IpAddress × Holder)
  | [] => none
  | ip :: ips =>
    match p.holder? ip with
    | some h => if h = .peer peer then conflict? p peer ips else some (ip, h)
    | none => conflict? p peer ips

/-- Reserves every address of `ips` for `peer`, and lists those that were free. -/
def reserveAll (p : AddressPool) (peer : Uuid) : List IpAddress → List IpAddress × AddressPool
  | [] => ([], p)
  | ip :: ips =>
    let (newly, q) := (p.put ip (.peer peer)).reserveAll peer ips
    (if p.contains ip then newly else ip :: newly, q)

/-- Reserves every address of `ips` for `peer`, or none if someone else holds one of them. Those
that the peer holds already stay its own. Gives the addresses that were free. -/
def claim (p : AddressPool) (ips : List IpAddress) (peer : Uuid) :
    Except PoolError (List IpAddress) × AddressPool :=
  match p.conflict? peer ips with
  | some (ip, h) => (.error (.heldByOther ip h), p)
  | none =>
    let (newly, q) := p.reserveAll peer ips
    (.ok newly, q)

/-- Releases `ip`, whoever holds it. -/
def release (p : AddressPool) (ip : IpAddress) : Except PoolError Unit × AddressPool :=
  if p.contains ip then (.ok (), p.drop ip) else (.error (.ipNotFound ip), p)

def releaseFor (p : AddressPool) (ip : IpAddress) (peer : Uuid) :
    Except PoolError Unit × AddressPool :=
  match p.holder? ip with
  | none => (.error (.ipNotFound ip), p)
  | some h => if h = .peer peer then (.ok (), p.drop ip) else (.error (.heldByOther ip h), p)

/-- Releases every address of `ips`, as far as it is reserved. -/
def releaseAll (p : AddressPool) (ips : List IpAddress) : AddressPool :=
  ips.foldl (fun p ip => (p.release ip).2) p

/-- Releases every address of `ips` that `peer` holds, and lists those. -/
def releaseAllFor (p : AddressPool) (peer : Uuid) : List IpAddress → List IpAddress × AddressPool
  | [] => ([], p)
  | ip :: ips =>
    match p.releaseFor ip peer with
    | (.ok (), p) =>
      let (released, q) := p.releaseAllFor peer ips
      (ip :: released, q)
    | (.error _, p) => p.releaseAllFor peer ips

/-- Reserves every address of `ips` for `holder`, as far as it is free. -/
def reserveAllFor (p : AddressPool) (ips : List IpAddress) (holder : Holder) : AddressPool :=
  ips.foldl (fun p ip => (p.reserveFor ip holder).2) p

/-- Whether allocation from `block` may hand out `ip`. -/
def isFree (p : AddressPool) (block : Cidr) (ip : IpAddress) : Bool :=
  ip ≠ block.network && ip ≠ block.broadcast && !p.contains ip

/-- Reserves the lowest free address of `block` for `holder`, and gives it as a block of its own. -/
def allocateFor (p : AddressPool) (block : Cidr) (holder : Holder) :
    Except PoolError Cidr × AddressPool :=
  match IpAddress.find? (p.isFree block) block.size block.network with
  | some ip => (.ok (Cidr.host ip), p.put ip holder)
  | none => (.error (.runOutOfAddresses block), p)

/-- Reserves the lowest free address of `block` for the device. -/
def allocate (p : AddressPool) (block : Cidr) : Except PoolError Cidr × AddressPool :=
  p.allocateFor block .device

@[simp] theorem block_put (p : AddressPool) (ip : IpAddress) (h : Holder) :
    (p.put ip h).block = p.block := rfl

@[simp] theorem block_drop (p : AddressPool) (ip : IpAddress) : (p.drop ip).block = p.block := rfl

theorem holder?_put (p : AddressPool) (ip a : IpAddress) (h : Holder) :
    (p.put ip h).holder? a = if ip = a then some h else p.holder? a := by
  simp only [holder?, put, Std.ExtTreeMap.getElem?_insert, Std.LawfulEqCmp.compare_eq_iff_eq]

theorem holder?_drop (p : AddressPool) (ip a : IpAddress) :
    (p.drop ip).holder? a = if ip = a then none else p.holder? a := by
  simp only [holder?, drop, Std.ExtTreeMap.getElem?_erase, Std.LawfulEqCmp.compare_eq_iff_eq]

/-- Two pools of one block are the same when they agree on who holds each address. -/
theorem ext_holder? {p q : AddressPool} (hb : p.block = q.block)
    (h : ∀ a, p.holder? a = q.holder? a) : p = q := by
  cases p; cases q
  simp only [mk.injEq]
  exact ⟨hb, Std.ExtTreeMap.ext_getElem? h⟩

end AddressPool

end TunnelKeeper
