import Mathlib.Data.Set.Card
import TunnelKeeper.Proofs.Pool.Scan

/-!
# How many addresses a device's pool has to give

A block with `h` host bits has `2 ^ h` addresses (`Cidr.ncard_contains`), and a pool can still hand
out those that are neither end nor reserved (`room`). Each allocation takes one of them, until there
are none and no allocation succeeds any more (`spec_afterAllocations`). The first pool of a device
reserves the device's own address beside both ends, so what it has room for hangs on whether these are
three addresses (`room_initialPool`), while the capacity that is reported for a device subtracts a
fixed number from the size of its block (`capacity_eq`).
-/

namespace TunnelKeeper

/-! ## The addresses of a block -/

namespace Cidr

variable (c : Cidr) {a : IpAddress} {i : Nat}

theorem contains_network : c.contains c.network = true :=
  c.contains_iff.2 ⟨rfl, Nat.le_refl _, Nat.lt_add_of_pos_right (Nat.two_pow_pos _)⟩

theorem contains_broadcast : c.contains c.broadcast = true := by
  have hpos : 0 < 2 ^ c.hostBits := Nat.two_pow_pos _
  refine c.contains_iff.2 ⟨rfl, ?_, ?_⟩
  · rw [toNat_broadcast]
    omega
  · rw [toNat_broadcast, size_eq]
    omega

theorem contains_ip : c.contains c.ip = true := by
  simp [contains]

/-- The address of the block that has `i` addresses before it. -/
def nth (i : Nat) : IpAddress :=
  ⟨c.ip.family, Octets.ofNat c.ip.family.size (c.network.toNat + i), Octets.length_ofNat _ _⟩

theorem toNat_nth (h : i < c.size) : (c.nth i).toNat = c.network.toNat + i := by
  have hlast := c.broadcast.pow_length_octets ▸ c.broadcast.toNat_lt
  rw [toNat_broadcast, c.broadcast.length_octets] at hlast
  rw [size_eq] at h
  refine Octets.toNat_ofNat (Nat.lt_of_le_of_lt ?_ hlast)
  omega

theorem contains_nth (h : i < c.size) : c.contains (c.nth i) = true := by
  rw [contains_iff, c.toNat_nth h]
  exact ⟨rfl, by omega, by omega⟩

/-- A block has as many addresses as its size says. -/
theorem ncard_contains : {a | c.contains a = true}.ncard = 2 ^ c.hostBits := by
  refine Set.ncard_eq_of_bijective (fun i _ => c.nth i) (fun a ha => ?_) (fun i hi => ?_)
    fun i j hi hj he => ?_
  · obtain ⟨hf, hle, hlt⟩ := c.contains_iff.1 ha
    have hi : a.toNat - c.network.toNat < c.size := by omega
    refine ⟨_, hi, IpAddress.eq_of_toNat hf.symm ?_⟩
    rw [c.toNat_nth hi]
    omega
  · exact c.contains_nth hi
  · have := congrArg IpAddress.toNat he
    rw [c.toNat_nth hi, c.toNat_nth hj] at this
    omega

theorem finite_contains : {a | c.contains a = true}.Finite := by
  refine Set.finite_of_ncard_pos ?_
  rw [ncard_contains]
  exact Nat.two_pow_pos _

/-- How many addresses of a device's block can be handed out: all but both ends and the device's own,
which may be one of the ends. -/
def hosts : Nat :=
  if c.hostBits < 2 then 0
  else if c.ip = c.network ∨ c.ip = c.broadcast then 2 ^ c.hostBits - 2
  else 2 ^ c.hostBits - 3

/-! ## The addresses that are the device's -/

/-- A block of one or two addresses has nothing but its ends. -/
theorem eq_end_of_small (h : c.hostBits < 2) (ha : c.contains a = true) :
    a = c.network ∨ a = c.broadcast := by
  have hsize : 2 ^ c.hostBits ≤ 2 ^ 1 := Nat.pow_le_pow_right (by decide) (by omega)
  have hlast := c.toNat_broadcast
  obtain ⟨hf, hle, hlt⟩ := c.contains_iff.1 ha
  rw [size_eq] at hlt
  rcases Nat.eq_or_lt_of_le hle with heq | hgt
  · exact .inl (IpAddress.eq_of_toNat hf heq.symm)
  · exact .inr (IpAddress.eq_of_toNat hf (by omega))

theorem network_ne_broadcast (h : 2 ≤ c.hostBits) : c.network ≠ c.broadcast := by
  have hsize : 2 ^ 2 ≤ 2 ^ c.hostBits := Nat.pow_le_pow_right (by decide) h
  have hlast := c.toNat_broadcast
  intro he
  rw [← he] at hlast
  omega

/-- Both ends and the device's own address are three addresses, unless its own is an end. -/
theorem ncard_ends (h : 2 ≤ c.hostBits) : ({c.network, c.broadcast, c.ip} : Set IpAddress).ncard
    = if c.ip = c.network ∨ c.ip = c.broadcast then 2 else 3 := by
  have hends := c.network_ne_broadcast h
  by_cases hown : c.ip = c.network ∨ c.ip = c.broadcast
  · have hmem : c.ip ∈ ({c.network, c.broadcast} : Set IpAddress) := hown
    rw [if_pos hown, Set.pair_comm c.broadcast, Set.insert_comm, Set.insert_eq_of_mem hmem,
      Set.ncard_pair hends]
  · rw [if_neg hown]
    rw [not_or] at hown
    exact Set.ncard_eq_three.2 ⟨_, _, _, hends, Ne.symm hown.1, Ne.symm hown.2, rfl⟩

/-- The addresses of a block that are not the device's are those that it can hand out. -/
theorem ncard_not_own : {a | c.contains a = true ∧ ¬ c.isOwn a}.ncard = c.hosts := by
  have hsub : ({c.network, c.broadcast, c.ip} : Set IpAddress) ⊆ {a | c.contains a = true} := by
    rintro a (rfl | rfl | rfl)
    · exact c.contains_network
    · exact c.contains_broadcast
    · exact c.contains_ip
  have hset : {a | c.contains a = true ∧ ¬ c.isOwn a}
      = {a | c.contains a = true} \ {c.network, c.broadcast, c.ip} := rfl
  rw [hset, Set.ncard_sdiff hsub, ncard_contains, hosts]
  by_cases hsmall : c.hostBits < 2
  · have hcover : {a | c.contains a = true} ⊆ ({c.network, c.broadcast, c.ip} : Set IpAddress) :=
      fun a ha => (c.eq_end_of_small hsmall ha).imp_right .inl
    have hle := Set.ncard_le_ncard hcover
    rw [ncard_contains] at hle
    rw [if_pos hsmall]
    omega
  · rw [if_neg hsmall, c.ncard_ends (by omega)]
    split
    · rfl
    · rfl

end Cidr

/-! ## What a pool has room for -/

namespace AddressPool

variable {p : AddressPool} {block : Cidr} {a : IpAddress}

/-- How many addresses of the block can be handed out. -/
noncomputable def room (p : AddressPool) (block : Cidr) : Nat := {a | p.Available block a}.ncard

theorem finite_available (p : AddressPool) (block : Cidr) : {a | p.Available block a}.Finite :=
  block.finite_contains.subset fun _ ha => ha.inside

/-- An address that is handed out is one less to give. -/
theorem room_put (h : p.Available block a) (holder : Holder) :
    (p.put a holder).room block + 1 = p.room block := by
  have hset : {b | (p.put a holder).Available block b} = {b | p.Available block b} \ {a} := by
    ext b
    constructor
    · intro hb
      have hfree := hb.free
      rw [holder?_put] at hfree
      by_cases hab : a = b
      · rw [if_pos hab] at hfree
        cases hfree
      · rw [if_neg hab] at hfree
        exact ⟨⟨hb.inside, hb.not_network, hb.not_broadcast, hfree⟩, Ne.symm hab⟩
    · rintro ⟨hb, hne⟩
      refine ⟨hb.inside, hb.not_network, hb.not_broadcast, ?_⟩
      rw [holder?_put, if_neg (Ne.symm hne)]
      exact hb.free
  rw [room, room, hset]
  exact Set.ncard_sdiff_singleton_add_one h (p.finite_available block)

theorem room_eq_zero_iff : p.room block = 0 ↔ ∀ a, ¬ p.Available block a := by
  rw [room, Set.ncard_eq_zero (p.finite_available block), Set.eq_empty_iff_forall_notMem]
  rfl

/-- While there is room, allocation gives an address of the block. -/
theorem allocateFor_of_room (h : 0 < p.room block) (holder : Holder) :
    ∃ a, p.Available block a ∧ p.allocateFor block holder = (.ok (.host a), p.put a holder) := by
  obtain ⟨b, hb⟩ : ∃ b, p.Available block b := by
    by_contra hnone
    rw [room_eq_zero_iff.2 fun a ha => hnone ⟨a, ha⟩] at h
    cases h
  have hscan := p.scan_network block
  obtain ⟨a, hfound, -⟩ :=
    hscan.le_of_available rfl (Nat.le_refl _) hb (block.contains_iff.1 hb.inside).2.1
  refine ⟨a, hscan.available a hfound, ?_⟩
  rw [allocateFor, hfound]

theorem allocateFor_of_no_room (h : p.room block = 0) (holder : Holder) :
    p.allocateFor block holder = (.error (.runOutOfAddresses block), p) := by
  have hscan := p.scan_network block
  rw [allocateFor]
  cases hfound : IpAddress.find? (p.isFree block) block.size block.network with
  | none => rfl
  | some a => exact absurd (hscan.available a hfound) (room_eq_zero_iff.1 h a)

/-- The first pool of a device has room for all addresses of its block that are not the device's. -/
theorem room_initialPool {d : Device} (hblock : d.network = .ok block)
    (hpool : d.initialPool = .ok p) : p.room block = block.hosts := by
  obtain ⟨block', hblock', hholders⟩ := Device.spec_initialPool hpool
  obtain rfl := Except.ok.inj (hblock'.symm.trans hblock)
  rw [← Cidr.ncard_not_own, room]
  congr 1
  ext a
  have hholder := hholders a
  constructor
  · intro ha
    refine ⟨ha.inside, fun hown => ?_⟩
    have hfree := ha.free
    rw [hholder, if_pos hown] at hfree
    cases hfree
  · rintro ⟨hin, hown⟩
    refine ⟨hin, fun he => hown (.inl he), fun he => hown (.inr (.inl he)), ?_⟩
    rw [hholder, if_neg hown]

end AddressPool

/-! ## Allocations one after another -/

namespace ManagedDevice

variable {m : ManagedDevice} {p : AddressPool} {block : Cidr}

/-- The device after an address was asked for for each holder in turn, whatever came of it. -/
def afterAllocations (m : ManagedDevice) (holders : List Holder) : ManagedDevice :=
  holders.foldl (fun m holder => (m.allocate holder).2) m

theorem allocate_eq (hblock : m.device.network = .ok block) (hpool : m.pool = some p)
    (holder : Holder) : m.allocate holder = ((p.allocateFor block holder).1.mapError .pool,
      { m with pool := some (p.allocateFor block holder).2 }) := by
  have hget : m.getPool = .ok p := by rw [getPool, hpool]
  rw [allocate, hblock]
  simp only [hget]

/-- Every call takes one address out of the room that there is, as long as there is some. -/
theorem spec_afterAllocations (hblock : m.device.network = .ok block) (hpool : m.pool = some p)
    (holders : List Holder) : ∃ q, m.afterAllocations holders = { m with pool := some q } ∧
      q.room block = p.room block - holders.length := by
  induction holders generalizing m p with
  | nil =>
    refine ⟨p, ?_, rfl⟩
    rw [← hpool]
    rfl
  | cons holder holders ih =>
    have hstep : ∃ q, (m.allocate holder).2 = { m with pool := some q } ∧
        q.room block = p.room block - 1 := by
      rw [allocate_eq hblock hpool]
      rcases Nat.eq_zero_or_pos (p.room block) with hzero | hpos
      · rw [AddressPool.allocateFor_of_no_room hzero]
        exact ⟨p, rfl, by omega⟩
      · obtain ⟨a, ha, halloc⟩ := AddressPool.allocateFor_of_room hpos holder
        have hroom := AddressPool.room_put ha holder
        rw [halloc]
        exact ⟨p.put a holder, rfl, by omega⟩
    obtain ⟨q, hq, hroom⟩ := hstep
    obtain ⟨r, hr, hroom'⟩ :=
      ih (m := (m.allocate holder).2) (p := q) (by rw [hq]; exact hblock) (by rw [hq])
    refine ⟨r, ?_, ?_⟩
    · rw [afterAllocations, List.foldl_cons]
      rw [hq] at hr ⊢
      exact hr
    · rw [hroom', hroom, List.length_cons]
      omega

end ManagedDevice

/-! ## The capacity of a device -/

/-- The capacity is the size of the block less the reserved count, cut off below zero and at the
greatest word. That the size of the block of all IPv6 addresses does not fit two words makes no
difference. -/
theorem Cidr.capacity_eq (c : Cidr) (reserved : UInt32) :
    c.capacity reserved.toNat = min (2 ^ 64 - 1) (2 ^ c.hostBits - reserved.toNat) := by
  have hreserved : reserved.toNat < 2 ^ 32 := reserved.toNat_lt
  have hbits : c.hostBits ≤ 128 := by
    have : c.ip.family.bits ≤ 128 := by cases c.ip.family <;> decide
    exact Nat.le_trans (Nat.sub_le _ _) this
  have hsize : UInt64.size = 2 ^ 64 := rfl
  rw [capacity, boundedSize, hsize]
  by_cases h : 128 ≤ c.hostBits
  · have hall : c.hostBits = 128 := Nat.le_antisymm hbits h
    have hpow : Nat.pow 2 128 = 2 ^ 128 := rfl
    rw [if_pos h, hall, hpow, if_neg (by omega)]
    omega
  · have hshift : Nat.shiftLeft 1 c.hostBits = 2 ^ c.hostBits := Nat.one_shiftLeft _
    rw [if_neg h, hshift]
    split
    · omega
    · omega

/-- Out of a device's first pool allocations succeed as often as its block has addresses that are not
the device's, whomever they are made for, and from then on they all fail and change nothing. The
capacity that is reported for the device is the size of its block less a reserved count. With the usual
count this is how often allocation succeeds, or one less where the device's own address is an end of
its block. -/
theorem Device.allocations_exact (d : Device) (block : Cidr) (hblock : d.network = .ok block) :
    ∃ pool, d.initialPool = .ok pool ∧
      (∀ (holders : List Holder) (holder : Holder),
        let m := (⟨d, some pool⟩ : ManagedDevice).afterAllocations holders
        (holders.length < block.hosts →
          ∃ a, block.contains a = true ∧ (m.allocate holder).1 = .ok (.host a)) ∧
        (block.hosts ≤ holders.length →
          m.allocate holder = (.error (.pool (.runOutOfAddresses block)), m))) ∧
      (∀ reserved : UInt32, (d.withCapacity reserved).map (·.status.maxPeers)
        = .ok (min (2 ^ 64 - 1) (2 ^ block.hostBits - reserved.toNat))) ∧
      (d.withCapacity Device.defaultReserved).map (·.status.maxPeers)
        = .ok (min (2 ^ 64 - 1)
          (if 2 ≤ block.hostBits ∧ (block.ip = block.network ∨ block.ip = block.broadcast)
            then block.hosts - 1 else block.hosts)) := by
  have hcapacity : ∀ reserved : UInt32, (d.withCapacity reserved).map (·.status.maxPeers)
      = .ok (min (2 ^ 64 - 1) (2 ^ block.hostBits - reserved.toNat)) := by
    intro reserved
    rw [Device.withCapacity, hblock]
    exact congrArg Except.ok (block.capacity_eq reserved)
  obtain ⟨pool, hpool⟩ : ∃ pool, d.initialPool = .ok pool := by
    rw [Device.initialPool, hblock]
    exact ⟨_, rfl⟩
  have hroom := AddressPool.room_initialPool hblock hpool
  refine ⟨pool, hpool, fun holders holder => ?_, hcapacity, ?_⟩
  · obtain ⟨q, hq, hleft⟩ :=
      ManagedDevice.spec_afterAllocations (m := ⟨d, some pool⟩) (p := pool) hblock rfl holders
    have hnext := ManagedDevice.allocate_eq (m := ⟨d, some q⟩) (p := q) hblock rfl holder
    rw [hroom] at hleft
    simp only [hq]
    rw [hnext]
    constructor
    · intro hlt
      have hfree : 0 < q.room block := by omega
      obtain ⟨a, ha, halloc⟩ := AddressPool.allocateFor_of_room hfree holder
      exact ⟨a, ha.inside, by rw [halloc]; rfl⟩
    · intro hle
      have hfull : q.room block = 0 := by omega
      rw [AddressPool.allocateFor_of_no_room hfull]
      rfl
  · have hthree : Device.defaultReserved.toNat = 3 := rfl
    rw [hcapacity, hthree, Cidr.hosts]
    by_cases hsmall : block.hostBits < 2
    · have hsize : 2 ^ block.hostBits ≤ 2 ^ 1 := Nat.pow_le_pow_right (by decide) (by omega)
      have hnone : 2 ^ block.hostBits - 3 = 0 := by omega
      rw [if_pos hsmall, hnone, if_neg (by omega)]
    · rw [if_neg hsmall]
      by_cases hown : block.ip = block.network ∨ block.ip = block.broadcast
      · rw [if_pos hown, if_pos ⟨by omega, hown⟩, Nat.sub_sub]
      · rw [if_neg hown, if_neg fun h => hown h.2]

/-! ## A device at the end of its block -/

namespace Sample

/-- The device's own address is the broadcast address of its block of eight. -/
def lastDevice : Device :=
  { Device.new .nil "wg0" .zero with address := "255.255.255.255/29" }

def lastEight : Cidr := ⟨.v4 255 255 255 255, 29, by decide⟩

/-- Six addresses are handed out, where five were reported. -/
theorem allocations_exact_last :
    lastDevice.network = .ok lastEight ∧ ∃ pool, lastDevice.initialPool = .ok pool ∧
      (∃ a, lastEight.contains a = true ∧ (((⟨lastDevice, some pool⟩ : ManagedDevice).afterAllocations
        (List.replicate 5 .device)).allocate .device).1 = .ok (.host a)) ∧
      (((⟨lastDevice, some pool⟩ : ManagedDevice).afterAllocations
        (List.replicate 6 .device)).allocate .device).1
          = .error (.pool (.runOutOfAddresses lastEight)) ∧
      (lastDevice.withCapacity Device.defaultReserved).map (·.status.maxPeers) = .ok 5 := by
  have hblock : lastDevice.network = .ok lastEight := by rfl
  obtain ⟨pool, hpool, hcalls, -, hreported⟩ := Device.allocations_exact lastDevice lastEight hblock
  have hhosts : lastEight.hosts = 6 := by decide +kernel
  have hfive : (List.replicate 5 Holder.device).length < lastEight.hosts := by
    rw [hhosts, List.length_replicate]
    decide
  have hsix : lastEight.hosts ≤ (List.replicate 6 Holder.device).length := by
    rw [hhosts, List.length_replicate]
  exact ⟨hblock, pool, hpool, (hcalls _ _).1 hfive, congrArg Prod.fst ((hcalls _ _).2 hsix),
    hreported.trans (by decide +kernel)⟩

end Sample

end TunnelKeeper
