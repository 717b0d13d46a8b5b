import TunnelKeeper.Proofs.Net.Blocks
import TunnelKeeper.Proofs.Pool.Holders

/-!
# Allocation hands out the lowest free address

A search for a free address goes up from the network address of a block, and ends where it finds one,
where it has left the block, or where the family has no address after the one it is at (`Scan`). It ends
for every block, also for one that ends where the family does (`scan_network`). A block is an interval, so
all that is free in it lies on the way, and what is found first is the lowest (`allocateFor_lowest`).
-/

namespace TunnelKeeper

namespace AddressPool

variable {p : AddressPool} {block : Cidr} {a b ip : IpAddress}

/-- The address is one of the block's that can be handed out: it is neither end, and nobody holds it. -/
structure Available (p : AddressPool) (block : Cidr) (a : IpAddress) : Prop where
  inside : block.contains a = true
  not_network : a ≠ block.network
  not_broadcast : a ≠ block.broadcast
  free : p.holder? a = none

/-- The address can be handed out, and it is the lowest that can. -/
structure Lowest (p : AddressPool) (block : Cidr) (a : IpAddress) : Prop extends
    p.Available block a where
  least : ∀ b, p.Available block b → a.toNat ≤ b.toNat

theorem isFree_iff : p.isFree block a = true ↔
    a ≠ block.network ∧ a ≠ block.broadcast ∧ p.holder? a = none := by
  rw [isFree, Bool.and_eq_true, Bool.and_eq_true, decide_eq_true_eq, decide_eq_true_eq,
    Bool.not_eq_true', contains_eq_false, and_assoc]

theorem available_iff :
    p.Available block a ↔ block.contains a = true ∧ p.isFree block a = true := by
  rw [isFree_iff]
  exact ⟨fun h => ⟨h.inside, h.not_network, h.not_broadcast, h.free⟩,
    fun ⟨h1, h2, h3, h4⟩ => ⟨h1, h2, h3, h4⟩⟩

/-! ## The search -/

/-- How a search that has come to an address goes on, and what it ends with. -/
inductive Scan (p : AddressPool) (block : Cidr) : IpAddress → Option IpAddress → Prop
  | found {a : IpAddress} (available : p.Available block a) : Scan p block a (some a)
  /-- It has left the block. -/
  | left {a : IpAddress} (outside : block.contains a = false) : Scan p block a none
  /-- The family has no address after this one. -/
  | wrapped {a : IpAddress} (inside : block.contains a = true) (taken : ¬ p.Available block a)
    (last : a.next? = none) : Scan p block a none
  | next {a b : IpAddress} {found : Option IpAddress} (inside : block.contains a = true)
    (taken : ¬ p.Available block a) (next : a.next? = some b) (rest : Scan p block b found) :
    Scan p block a found

/-- From an address of the block on, the search ends with what is found on the way to its end. -/
theorem scan_find? {n : Nat} (hf : a.family = block.ip.family)
    (hle : block.network.toNat ≤ a.toNat) (hn : a.toNat + n = block.network.toNat + block.size) :
    p.Scan block a (IpAddress.find? (p.isFree block) n a) := by
  induction n generalizing a with
  | zero =>
    refine .left (Bool.eq_false_iff.2 fun hin => ?_)
    obtain ⟨-, -, hlt⟩ := block.contains_iff.1 hin
    omega
  | succ n ih =>
    have hin : block.contains a = true := block.contains_iff.2 ⟨hf, hle, by omega⟩
    rw [IpAddress.find?]
    by_cases hfree : p.isFree block a = true
    · rw [if_pos hfree]
      exact .found (available_iff.2 ⟨hin, hfree⟩)
    · have htaken : ¬ p.Available block a := fun h => hfree (available_iff.1 h).2
      rw [if_neg hfree]
      cases hnext : a.next? with
      | none => exact .wrapped hin htaken hnext
      | some b =>
        obtain ⟨hbf, hb⟩ := IpAddress.next?_eq_some_iff.1 hnext
        exact .next hin htaken hnext (ih (hbf.trans hf) (by omega) (by omega))

theorem scan_network (p : AddressPool) (block : Cidr) :
    p.Scan block block.network
      (IpAddress.find? (p.isFree block) block.size block.network) :=
  scan_find? rfl (Nat.le_refl _) rfl

/-- A search has one end. -/
theorem Scan.unique {found found' : Option IpAddress} (h : p.Scan block a found)
    (h' : p.Scan block a found') : found = found' := by
  induction h with
  | found available =>
    cases h' with
    | found => rfl
    | left outside => rw [available.inside] at outside; cases outside
    | wrapped _ taken | next _ taken => exact absurd available taken
  | left outside =>
    cases h' with
    | found available => rw [available.inside] at outside; cases outside
    | left | wrapped => rfl
    | next inside => rw [inside] at outside; cases outside
  | wrapped inside taken last =>
    cases h' with
    | found available => exact absurd available taken
    | left | wrapped => rfl
    | next _ _ next => rw [last] at next; cases next
  | next inside taken next _ ih =>
    cases h' with
    | found available => exact absurd available taken
    | left outside => rw [inside] at outside; cases outside
    | wrapped _ _ last => rw [last] at next; cases next
    | next _ _ next' rest =>
      obtain rfl := Option.some.inj (next.symm.trans next')
      exact ih rest

theorem Scan.available {found : Option IpAddress} (h : p.Scan block a found) :
    ∀ ip ∈ found, p.Available block ip := by
  induction h with
  | found available => exact fun ip hip => Option.some.inj hip ▸ available
  | left | wrapped => exact fun ip hip => by cases hip
  | next _ _ _ _ ih => exact ih

/-- A search passes over no address that can be handed out: it has come to its end by then. -/
theorem Scan.le_of_available {found : Option IpAddress} (h : p.Scan block a found)
    (hf : a.family = block.ip.family) (hle : block.network.toNat ≤ a.toNat)
    (hb : p.Available block b) (hab : a.toNat ≤ b.toNat) : ∃ ip ∈ found, ip.toNat ≤ b.toNat := by
  obtain ⟨hbf, -, hlt⟩ := block.contains_iff.1 hb.inside
  -- An address that cannot be handed out is not `b`, so `b` lies after it.
  have hafter : ∀ a : IpAddress, a.family = block.ip.family → ¬ p.Available block a →
      a.toNat ≤ b.toNat → a.toNat + 1 ≤ b.toNat := by
    intro a hf htaken hab
    refine Nat.lt_of_le_of_ne hab fun he => htaken ?_
    rwa [IpAddress.eq_of_toNat (hf.trans hbf.symm) he]
  induction h with
  | found available => exact ⟨_, rfl, hab⟩
  | left outside =>
    have hin := block.contains_iff.2 ⟨hf, hle, by omega⟩
    rw [outside] at hin
    cases hin
  | wrapped _ taken last =>
    have hnext := hafter _ hf taken hab
    have hbound := b.toNat_lt
    rw [hbf, ← hf, ← IpAddress.next?_eq_none_iff.1 last] at hbound
    omega
  | next _ taken next _ ih =>
    obtain ⟨hnf, hn⟩ := IpAddress.next?_eq_some_iff.1 next
    have hnext := hafter _ hf taken hab
    exact ih (hnf.trans hf) (by omega) (by omega)

/-! ## Allocation -/

/-- The search for a free address has one end, whatever the block and the pool. If an address of the
block can be handed out, allocation gives the lowest, as a block of its own, and reserves that address and
no other. If there is none, it says so, and leaves the pool. -/
theorem allocateFor_lowest (p : AddressPool) (block : Cidr) (holder : Holder) :
    ∃ found, (∀ other, p.Scan block block.network other ↔ other = found) ∧
      (∀ a, p.Available block a → ∃ ip c q, found = some ip ∧ p.Lowest block ip ∧
        p.allocateFor block holder = (.ok c, q) ∧
        c.ip = ip ∧ c.length = (match ip.family with | .v4 => 32 | .v6 => 128) ∧
        q.block = p.block ∧ ∀ b, q.holder? b = if b = ip then some holder else p.holder? b) ∧
      ((∀ a, ¬ p.Available block a) → found = none ∧
        p.allocateFor block holder = (.error (.runOutOfAddresses block), p)) := by
  have hscan := p.scan_network block
  have hpasses : ∀ a, p.Available block a →
      ∃ ip ∈ IpAddress.find? (p.isFree block) block.size block.network, ip.toNat ≤ a.toNat :=
    fun a ha => hscan.le_of_available rfl (Nat.le_refl _) ha (block.contains_iff.1 ha.inside).2.1
  refine ⟨_, fun other => ⟨fun h => h.unique hscan, fun h => h ▸ hscan⟩, fun a ha => ?_,
    fun hnone => ?_⟩
  · obtain ⟨ip, hip, -⟩ := hpasses a ha
    have hleast : ∀ b, p.Available block b → ip.toNat ≤ b.toNat := by
      intro b hb
      obtain ⟨ip', hip', hle⟩ := hpasses b hb
      rwa [← Option.some.inj (hip.symm.trans hip')] at hle
    refine ⟨ip, Cidr.host ip, p.put ip holder, hip, ⟨hscan.available ip hip, hleast⟩, ?_, rfl, ?_, rfl,
      fun b => ?_⟩
    · rw [allocateFor, hip]
    · show ip.family.bits = _
      cases ip.family with
      | v4 => rfl
      | v6 => rfl
    · rw [holder?_put]
      simp only [eq_comm]
  · have hfound : IpAddress.find? (p.isFree block) block.size block.network = none := by
      cases hf : IpAddress.find? (p.isFree block) block.size block.network with
      | none => rfl
      | some ip => exact absurd (hscan.available ip hf) (hnone ip)
    refine ⟨hfound, ?_⟩
    rw [allocateFor, hfound]

end AddressPool

/-! ## Two blocks at the end of their family -/

namespace Sample

/-- Four addresses, of which this one is the device's. -/
def lastFour : Cidr := ⟨.v4 255 255 255 253, 30, by decide⟩

/-- The network address is not reserved any more, but is not handed out. -/
def lastPool : AddressPool :=
  (((AddressPool.new lastFour).reserve lastFour.ip).2.release lastFour.network).2

/-- Two addresses, which are both ends. -/
def lastTwo : Cidr := ⟨.v4 255 255 255 255, 31, by decide⟩

theorem allocateFor_lowest_last :
    (lastPool.Available lastFour (.v4 255 255 255 254) ∧
      ∃ ip c q, lastPool.Lowest lastFour ip ∧ lastPool.allocateFor lastFour .kernel = (.ok c, q) ∧
        c.ip = ip ∧ c = .host (.v4 255 255 255 254) ∧
        ∀ b, q.holder? b = if b = ip then some .kernel else lastPool.holder? b) ∧
      (∀ a, ¬ (AddressPool.new lastTwo).Available lastTwo a) ∧
        (AddressPool.new lastTwo).allocateFor lastTwo .kernel
          = (.error (.runOutOfAddresses lastTwo), AddressPool.new lastTwo) := by
  have hlast : lastPool.Available lastFour (.v4 255 255 255 254) :=
    ⟨by decide, by decide, by decide, by decide +kernel⟩
  have hfull : ∀ a, ¬ (AddressPool.new lastTwo).Available lastTwo a := by
    intro a ha
    obtain ⟨hf, hle, hlt⟩ := lastTwo.contains_iff.1 ha.inside
    have hnet : lastTwo.network.toNat = 4294967294 := by decide
    have hsize : lastTwo.size = 2 := by decide
    rcases Nat.eq_or_lt_of_le hle with heq | hgt
    · exact ha.not_network (IpAddress.eq_of_toNat hf heq.symm)
    · have hbroadcast : lastTwo.broadcast.toNat = 4294967295 := by decide
      exact ha.not_broadcast (IpAddress.eq_of_toNat hf (by omega))
  obtain ⟨_, -, hgives, -⟩ := AddressPool.allocateFor_lowest lastPool lastFour .kernel
  obtain ⟨_, -, -, hrefuses⟩ :=
    AddressPool.allocateFor_lowest (AddressPool.new lastTwo) lastTwo .kernel
  obtain ⟨ip, c, q, -, hlowest, halloc, hip, -, -, hholders⟩ := hgives _ hlast
  have hc : (lastPool.allocateFor lastFour .kernel).1 = .ok (.host (.v4 255 255 255 254)) := by
    decide +kernel
  rw [halloc] at hc
  exact ⟨⟨hlast, ip, c, q, hlowest, halloc, hip, Except.ok.inj hc, hholders⟩, hfull,
    (hrefuses hfull).2⟩

end Sample

end TunnelKeeper
