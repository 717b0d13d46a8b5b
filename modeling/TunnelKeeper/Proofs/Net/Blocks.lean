import TunnelKeeper.Pool
import TunnelKeeper.Proofs.Net.Octets

/-!
# Blocks are intervals

An address is a number below two to the number of its family's bits, and the address after it is the
next number (`next?_eq_some_iff`). A block is the interval from its network address on that has as many
addresses as its size says (`contains_iff`), and its broadcast address is the last of them
(`toNat_broadcast`). Together this makes the arithmetic on addresses that on numbers
(`address_arithmetic`).
-/

namespace TunnelKeeper

/-! ## Addresses -/

namespace IpAddress

variable {a b : IpAddress}

theorem pow_length_octets (a : IpAddress) : 256 ^ a.octets.length = 2 ^ a.family.bits := by
  rw [a.length_octets, Family.bits, Nat.pow_mul]

theorem toNat_lt (a : IpAddress) : a.toNat < 2 ^ a.family.bits := by
  rw [← a.pow_length_octets]
  exact Octets.toNat_lt a.octets

/-- Addresses of one family are known by their numbers. -/
theorem eq_of_toNat (hf : a.family = b.family) (h : a.toNat = b.toNat) : a = b := by
  have hlen : a.octets.length = b.octets.length := by rw [a.length_octets, b.length_octets, hf]
  exact ext_octets ((Octets.toNat_inj hlen).1 h)

theorem toNat_next? (h : a.next? = some b) : b.toNat = a.toNat + 1 := by
  unfold next? at h
  split at h
  · rename_i hgrown
    rw [← Option.some.inj h]
    have := Octets.toNat_increment a.octets
    rw [if_pos hgrown] at this
    exact this
  · cases h

/-- The last address of a family has no address after it. -/
theorem next?_eq_none_iff : a.next? = none ↔ a.toNat + 1 = 2 ^ a.family.bits := by
  rw [← a.pow_length_octets, toNat, ← Octets.increment_snd_iff, next?]
  cases (Octets.increment a.octets).2 with
  | true => simp
  | false => simp

/-- The address after another is the next number. -/
theorem next?_eq_some_iff : a.next? = some b ↔ b.family = a.family ∧ b.toNat = a.toNat + 1 := by
  refine ⟨fun h => ⟨family_next? h, toNat_next? h⟩, fun ⟨hf, hnext⟩ => ?_⟩
  cases hc : a.next? with
  | none =>
    have hlast := next?_eq_none_iff.1 hc
    have hlt := b.toNat_lt
    rw [hf] at hlt
    omega
  | some c =>
    have hcf := family_next? hc
    have hcn := toNat_next? hc
    rw [eq_of_toNat (hcf.trans hf.symm) (hcn.trans hnext.symm)]

end IpAddress

/-! ## Blocks -/

namespace Cidr

variable (c : Cidr) {a : IpAddress}

theorem hostBits_eq : 8 * c.ip.octets.length - c.length = c.hostBits := by
  rw [hostBits, Family.bits, c.ip.length_octets]

theorem length_le_octets : c.length ≤ 8 * c.ip.octets.length := by
  rw [c.ip.length_octets]
  exact c.length_le

theorem toNat_keep {os : List UInt8} (h : os.length = c.ip.octets.length) :
    Octets.toNat (Octets.keep c.mask os)
      = 2 ^ c.hostBits * (Octets.toNat os / 2 ^ c.hostBits) := by
  rw [mask, ← c.ip.length_octets, ← h, Octets.toNat_keep_mask (h ▸ c.length_le_octets), h,
    c.hostBits_eq]

/-- The network address is the multiple of the block's size that the block's address is in. -/
theorem toNat_network : c.network.toNat = 2 ^ c.hostBits * (c.ip.toNat / 2 ^ c.hostBits) :=
  c.toNat_keep rfl

/-- The broadcast address is the last of the block. -/
theorem toNat_broadcast : c.broadcast.toNat = c.network.toNat + (2 ^ c.hostBits - 1) := by
  rw [toNat_network]
  show Octets.toNat (Octets.fill c.mask c.ip.octets) = _
  rw [mask, ← c.ip.length_octets, Octets.toNat_fill_mask c.length_le_octets, c.hostBits_eq]
  rfl

theorem size_eq : c.size = 2 ^ c.hostBits := rfl

/-- The addresses of a block are those of its family from the network address on, as many as the
block's size. -/
theorem contains_iff : c.contains a = true ↔
    a.family = c.ip.family ∧ c.network.toNat ≤ a.toNat ∧ a.toNat < c.network.toNat + c.size := by
  rw [contains, Bool.and_eq_true, decide_eq_true_eq, decide_eq_true_eq]
  refine and_congr_right fun hf => ?_
  have hlen : a.octets.length = c.ip.octets.length := by
    rw [a.length_octets, c.ip.length_octets, hf]
  have hkept : (Octets.keep c.mask a.octets).length = (Octets.keep c.mask c.ip.octets).length := by
    rw [Octets.length_keep _ _ (c.length_mask.trans hlen.symm), Octets.length_keep _ _ c.length_mask,
      hlen]
  have hpos : 0 < 2 ^ c.hostBits := Nat.two_pow_pos _
  rw [← Octets.toNat_inj hkept, c.toNat_keep hlen, c.toNat_keep rfl, Nat.mul_right_inj hpos.ne',
    Nat.div_eq_iff hpos, toNat_network, size_eq]
  show c.ip.toNat / 2 ^ c.hostBits * 2 ^ c.hostBits ≤ a.toNat
    ∧ a.toNat ≤ c.ip.toNat / 2 ^ c.hostBits * 2 ^ c.hostBits + 2 ^ c.hostBits - 1 ↔ _
  rw [Nat.mul_comm]
  omega

/-- The broadcast address has each octet of the network address with the bits set that the mask leaves
out. -/
theorem octets_broadcast : c.broadcast.octets = Octets.fill c.mask c.network.octets :=
  (Octets.fill_keep c.mask c.ip.octets).symm

/-- The addresses of a block are those of its family from its network to its broadcast address. -/
theorem contains_iff_between : c.contains a = true ↔
    a.family = c.ip.family ∧ c.network.toNat ≤ a.toNat ∧ a.toNat ≤ c.broadcast.toNat := by
  have hpos : 0 < c.size := Nat.two_pow_pos _
  rw [contains_iff, toNat_broadcast, ← size_eq]
  refine and_congr_right fun _ => and_congr_right fun _ => ?_
  omega

end Cidr

/-! ## Addresses as numbers -/

/-- Octets of any length grow by one, modulo the least number they have no room for, and the flag is false
where every one of them is full and nowhere else. So the address after another is the next number of its
family, and only the greatest number of the family has none after it. The network address of a block is
the block's address with the host bits cleared. The broadcast address, whose octets are those of the
network address with the bits set that the mask leaves out, is `2 ^ h - 1` after it where there are `h`
host bits, and the block has just the addresses of its family from the one to the other. -/
theorem address_arithmetic :
    (∀ os : List UInt8, (Octets.increment os).1.length = os.length ∧
      Octets.toNat (Octets.increment os).1 = (Octets.toNat os + 1) % 256 ^ os.length ∧
      ((Octets.increment os).2 = false ↔ os = List.replicate os.length 255)) ∧
    (∀ a : IpAddress,
      (∀ b, a.next? = some b ↔ b.family = a.family ∧ b.toNat = a.toNat + 1) ∧
      (a.next? = none ↔ a.toNat = 2 ^ a.family.bits - 1)) ∧
    (∀ c : Cidr,
      (c.network.family = c.ip.family ∧
        c.network.toNat = 2 ^ c.hostBits * (c.ip.toNat / 2 ^ c.hostBits)) ∧
      (c.broadcast.family = c.ip.family ∧
        c.broadcast.octets = Octets.fill c.mask c.network.octets ∧
        c.broadcast.toNat = c.network.toNat + 2 ^ c.hostBits - 1) ∧
      ∀ a, c.contains a = true ↔
        a.family = c.ip.family ∧ c.network.toNat ≤ a.toNat ∧ a.toNat ≤ c.broadcast.toNat) := by
  refine ⟨fun os => ?octets, fun a => ?address, fun c => ?block⟩
  case octets =>
    exact ⟨Octets.length_increment os, Octets.toNat_increment_mod os,
      Octets.increment_snd_iff_replicate⟩
  case address =>
    have hpos : 0 < 2 ^ a.family.bits := Nat.two_pow_pos _
    refine ⟨fun b => IpAddress.next?_eq_some_iff, ?_⟩
    rw [IpAddress.next?_eq_none_iff]
    omega
  case block =>
    have hpos : 0 < 2 ^ c.hostBits := Nat.two_pow_pos _
    have hlast : c.broadcast.toNat = c.network.toNat + 2 ^ c.hostBits - 1 := by
      rw [c.toNat_broadcast]
      omega
    exact ⟨⟨rfl, c.toNat_network⟩, ⟨rfl, c.octets_broadcast, hlast⟩, fun a => c.contains_iff_between⟩

-- The mask ends inside the second octet.
example : (⟨.v4 172 16 5 4, 12, by decide⟩ : Cidr).broadcast = .v4 172 31 255 255 := by
  decide +kernel

end TunnelKeeper
