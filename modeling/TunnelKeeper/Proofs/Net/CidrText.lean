import TunnelKeeper.Net.Cidr
import TunnelKeeper.Peer.Basic
import TunnelKeeper.Proofs.Net.AddressText
import TunnelKeeper.Proofs.Text.Trim

/-!
# The text of a block reads back

`Cidr.parse?_text`: the text of a block is an address, a slash and a number, none of which has a
slash in it, so reading it gives the block with all its bits. A peer that declares the text of a
block (`Peer.readAllowedIp_text`) is read as declaring that block.
-/

namespace TunnelKeeper

open Text

namespace IpAddress

theorem toNat_of_isTextChar {c : Char} (h : isTextChar c = true) :
    46 ≤ c.toNat ∧ c.toNat ≤ 102 ∧ c.toNat ≠ 47 := by
  have hle : ∀ a b : Char, a ≤ b → a.toNat ≤ b.toNat := fun a b h =>
    UInt32.le_iff_toNat_le.1 (Char.le_def.1 h)
  simp only [isTextChar, Net.isHex, Net.hexValue?, Bool.or_eq_true, decide_eq_true_eq] at h
  rcases h with (h | rfl) | rfl
  · split at h
    · rename_i hc
      have h1 : 48 ≤ c.toNat := hle '0' c hc.1
      have h2 : c.toNat ≤ 57 := hle c '9' hc.2
      omega
    · split at h
      · rename_i hc
        have h1 : 97 ≤ c.toNat := hle 'a' c hc.1
        have h2 : c.toNat ≤ 102 := hle c 'f' hc.2
        omega
      · split at h
        · rename_i hc
          have h1 : 65 ≤ c.toNat := hle 'A' c hc.1
          have h2 : c.toNat ≤ 70 := hle c 'F' hc.2
          omega
        · cases h
  · decide
  · decide

theorem isBlank_of_mem_text {a : IpAddress} {c : Char} (h : c ∈ a.text.toList) :
    isBlank c = false := by
  obtain ⟨h1, h2, -⟩ := toNat_of_isTextChar (isTextChar_of_mem_text h)
  exact isBlank_eq_false (by omega) (by omega)

theorem slash_notMem_text (a : IpAddress) : '/' ∉ a.text.toList := by
  intro h
  exact (toNat_of_isTextChar (isTextChar_of_mem_text h)).2.2 rfl

end IpAddress

namespace Cidr

theorem toList_text (c : Cidr) :
    c.text.toList = c.ip.text.toList ++ '/' :: Nat.toDigits 10 c.length := by
  simp [text]

theorem isBlank_of_mem_text {b : Cidr} {c : Char} (h : c ∈ b.text.toList) : isBlank c = false := by
  rw [toList_text, List.mem_append, List.mem_cons] at h
  rcases h with h | rfl | h
  · exact IpAddress.isBlank_of_mem_text h
  · decide
  · obtain ⟨h1, h2, -⟩ := IpAddress.toNat_of_isTextChar
      (IpAddress.isTextChar_of_isDigit (isDigit_of_mem_toDigits h))
    exact isBlank_eq_false (by omega) (by omega)

theorem readLength?_toDigits {f : Family} {n : Nat} (h : n ≤ f.bits) :
    readLength? f (Nat.toDigits 10 n) = some n := by
  have hbits : f.bits ≤ 128 := by cases f <;> decide
  have hnat : readNat? 255 (Nat.toDigits 10 n) = some n := readNat?_toDigits (by omega)
  have hpoint : '.' ∉ Nat.toDigits 10 n := by
    intro hp
    exact absurd (isDigit_of_mem_toDigits hp) (by decide)
  have h4 : Net.whole? Net.readV4? (Nat.toDigits 10 n) = none := by
    rw [Net.whole?, Net.readV4?_eq_none hpoint]
  unfold readLength?
  rw [h4, hnat]
  simp [h]

/-- The text of a block reads back. -/
theorem parse?_text (c : Cidr) : parse? c.text.toList = some c := by
  rw [parse?, toList_text, splitFirst?_append (IpAddress.slash_notMem_text c.ip)]
  simp only [IpAddress.parse?_text, readLength?_toDigits c.length_le, Option.bind_eq_bind,
    Option.bind_some, mk?]
  rw [dif_pos c.length_le]

end Cidr

theorem Peer.readAllowedIp_text (c : Cidr) : readAllowedIp c.text = .ok c := by
  rw [readAllowedIp, trimmed_eq fun _ h => Cidr.isBlank_of_mem_text h, Cidr.parse?_text]

end TunnelKeeper
