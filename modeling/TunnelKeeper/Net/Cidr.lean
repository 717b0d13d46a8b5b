import TunnelKeeper.Net.AddressText

/-!
Blocks of addresses: an address with the number of its leading bits that all addresses of the block
share. The address may be any of the block, and keeps its other bits.
-/

namespace TunnelKeeper

/-- A block of addresses, named by one of them. -/
structure Cidr where
  ip : IpAddress
  /-- The number of leading bits that the block shares. -/
  length : Nat
  /-- There are no more than the address has. -/
  length_le : length ≤ ip.family.bits
  deriving DecidableEq

namespace Cidr

/-- The block of `ip` alone. -/
def host (ip : IpAddress) : Cidr := ⟨ip, ip.family.bits, Nat.le_refl _⟩

instance : Inhabited Cidr := ⟨host default⟩

/-- The block of `ip` with `length` shared bits, if it has that many. -/
def mk? (ip : IpAddress) (length : Nat) : Option Cidr :=
  if h : length ≤ ip.family.bits then some ⟨ip, length, h⟩ else none

/-- The number of bits in which the addresses of the block differ. -/
def hostBits (c : Cidr) : Nat := c.ip.family.bits - c.length

def size (c : Cidr) : Nat := Nat.pow 2 c.hostBits

/-- The octets whose set bits the addresses of the block share. -/
def mask (c : Cidr) : List UInt8 := Octets.mask c.ip.family.size c.length

theorem length_mask (c : Cidr) : c.mask.length = c.ip.octets.length := by
  rw [mask, Octets.length_mask, c.ip.length_octets]

def network (c : Cidr) : IpAddress :=
  ⟨c.ip.family, Octets.keep c.mask c.ip.octets,
    (Octets.length_keep _ _ c.length_mask).trans c.ip.length_octets⟩

/-- The last address of the block. -/
def broadcast (c : Cidr) : IpAddress :=
  ⟨c.ip.family, Octets.fill c.mask c.ip.octets,
    (Octets.length_fill _ _ c.length_mask).trans c.ip.length_octets⟩

/-- Whether `a` is an address of the block. -/
def contains (c : Cidr) (a : IpAddress) : Bool :=
  a.family = c.ip.family && Octets.keep c.mask a.octets = Octets.keep c.mask c.ip.octets

/-- The number of leading bits that a mask of four octets keeps, if all it keeps are leading. -/
def lengthOfMask? (octets : List UInt8) : Option Nat :=
  (List.range 33).find? fun n => Octets.mask 4 n = octets

/-- Reads the number of shared bits: a number, or for IPv4 a mask as well. -/
def readLength? (family : Family) (s : List Char) : Option Nat :=
  let number := (Text.readNat? 255 s).filter (· ≤ family.bits)
  match family, Net.whole? Net.readV4? s with
  | .v4, some m => lengthOfMask? m.octets
  | _, _ => number

/-- Reads a block: an address, and after a slash the number of shared bits. An address without one
is a block of its own. -/
def parse? (s : List Char) : Option Cidr :=
  match Text.splitFirst? '/' s with
  | none => (IpAddress.parse? s).map host
  | some (before, after) => do
    let ip ← IpAddress.parse? before
    let length ← readLength? ip.family after
    mk? ip length

def text (c : Cidr) : String := c.ip.text ++ "/" ++ toString c.length

instance : ToString Cidr := ⟨text⟩

end Cidr

end TunnelKeeper
