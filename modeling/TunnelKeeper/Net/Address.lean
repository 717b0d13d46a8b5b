import TunnelKeeper.Net.Octets

/-!
Network addresses of the two families. An address is the list of its octets, so that the arithmetic
on it is the arithmetic of `Octets` for both families alike.
-/

namespace TunnelKeeper

/-- The family of an address. -/
inductive Family
  | v4
  | v6
  deriving DecidableEq, Repr

def Family.size : Family → Nat
  | .v4 => 4
  | .v6 => 16

def Family.bits (f : Family) : Nat := 8 * f.size

structure IpAddress where
  family : Family
  /-- Its octets, most significant first. -/
  octets : List UInt8
  /-- There are as many as the family has. -/
  length_octets : octets.length = family.size
  deriving DecidableEq

namespace IpAddress

/-- The IPv4 address with these octets. -/
def v4 (a b c d : UInt8) : IpAddress := ⟨.v4, [a, b, c, d], rfl⟩

instance : Inhabited IpAddress := ⟨v4 0 0 0 0⟩

/-- The IPv6 address that the number `n` writes. -/
def v6 (n : Nat) : IpAddress := ⟨.v6, Octets.ofNat 16 n, Octets.length_ofNat 16 n⟩

def toNat (a : IpAddress) : Nat := Octets.toNat a.octets

/-- The address after `a`, unless `a` is the last of its family. -/
def next? (a : IpAddress) : Option IpAddress :=
  if (Octets.increment a.octets).2 then
    some ⟨a.family, (Octets.increment a.octets).1,
      (Octets.length_increment a.octets).trans a.length_octets⟩
  else none

def groups : List UInt8 → List Nat
  | a :: b :: rest => (256 * a.toNat + b.toNat) :: groups rest
  | _ => []

/-- The first address that `accepts` takes, among `a` and the `n - 1` addresses after it. -/
def find? (accepts : IpAddress → Bool) : (n : Nat) → (a : IpAddress) → Option IpAddress
  | 0, _ => none
  | n + 1, a =>
    if accepts a then some a
    else match a.next? with
      | none => none
      | some b => find? accepts n b

theorem family_next? {a b : IpAddress} (h : a.next? = some b) : b.family = a.family := by
  unfold next? at h
  split at h
  · simp only [Option.some.injEq] at h
    rw [← h]
  · simp at h

theorem accepts_of_find? {accepts : IpAddress → Bool} {n : Nat} {a b : IpAddress}
    (h : find? accepts n a = some b) : accepts b = true := by
  induction n generalizing a with
  | zero => simp [find?] at h
  | succ n ih =>
    unfold find? at h
    split at h
    · rename_i ha
      simpa [← Option.some.inj h] using ha
    · split at h
      · simp at h
      · exact ih h

end IpAddress

end TunnelKeeper
