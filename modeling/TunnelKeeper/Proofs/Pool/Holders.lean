import TunnelKeeper.Device.Basic

/-!
# Who holds an address after each operation

Every operation on a pool is known by what it does to `holder?` at an arbitrary address, so that no
proof about passes or services opens one. `Grants` is the condition under which a claim succeeds,
and `Extends` says that a pool has every reservation of another. What allocation hands out was held
by nobody and is neither end of the block (`spec_allocateFor`).
-/

namespace TunnelKeeper

namespace AddressPool

variable {p q r : AddressPool} {ips : List IpAddress} {a ip : IpAddress} {peer : Uuid}

/-! ## Reserved addresses -/

theorem contains_iff : p.contains a = true ↔ ∃ h, p.holder? a = some h := Option.isSome_iff_exists

theorem contains_eq_false : p.contains a = false ↔ p.holder? a = none :=
  Option.isSome_eq_false_iff.trans Option.isNone_iff_eq_none

/-- Every address that `p` has reserved, `q` has reserved for the same holder. -/
def Extends (q p : AddressPool) : Prop := ∀ a h, p.holder? a = some h → q.holder? a = some h

theorem Extends.refl (p : AddressPool) : p.Extends p := fun _ _ h => h

theorem Extends.trans (h : r.Extends q) (h' : q.Extends p) : r.Extends p :=
  fun a k hk => h a k (h' a k hk)

theorem Extends.contains (h : q.Extends p) (ha : p.contains a = true) : q.contains a = true := by
  obtain ⟨k, hk⟩ := contains_iff.1 ha
  exact contains_iff.2 ⟨k, h a k hk⟩

/-! ## Reserving what is free -/

theorem holder?_reserveFor (p : AddressPool) (ip a : IpAddress) (h : Holder) :
    (p.reserveFor ip h).2.holder? a = (p.holder? a).or (if a = ip then some h else none) := by
  unfold reserveFor
  by_cases hc : p.contains ip = true
  · rw [if_pos hc]
    obtain ⟨k, hk⟩ := contains_iff.1 hc
    by_cases ha : a = ip
    · rw [ha, hk]
      rfl
    · rw [if_neg ha, Option.or_none]
  · rw [if_neg hc, holder?_put]
    by_cases ha : a = ip
    · have hnone : p.holder? ip = none := contains_eq_false.1 (by simpa using hc)
      rw [if_pos ha.symm, if_pos ha, ha, hnone]
      rfl
    · rw [if_neg (Ne.symm ha), if_neg ha, Option.or_none]

theorem reserveAllFor_cons (p : AddressPool) (ip : IpAddress) (ips : List IpAddress) (h : Holder) :
    p.reserveAllFor (ip :: ips) h = (p.reserveFor ip h).2.reserveAllFor ips h := rfl

theorem holder?_reserveAllFor (p : AddressPool) (ips : List IpAddress) (h : Holder) (a : IpAddress) :
    (p.reserveAllFor ips h).holder? a = (p.holder? a).or (if a ∈ ips then some h else none) := by
  induction ips generalizing p with
  | nil => simp [reserveAllFor]
  | cons ip ips ih =>
    rw [reserveAllFor_cons, ih, holder?_reserveFor]
    by_cases ha : a = ip
    · simp [ha]
    · simp [ha]

theorem extends_reserveAllFor (p : AddressPool) (ips : List IpAddress) (h : Holder) :
    (p.reserveAllFor ips h).Extends p := by
  intro a k hk
  rw [holder?_reserveAllFor, hk]
  rfl

/-! ## Claims -/

/-- No address of `ips` is held by anyone but `peer`. -/
def Grants (p : AddressPool) (peer : Uuid) (ips : List IpAddress) : Prop :=
  ∀ a ∈ ips, ∀ h, p.holder? a = some h → h = .peer peer

theorem Grants.anti (h : q.Grants peer ips) (hq : q.Extends p) : p.Grants peer ips :=
  fun a ha k hk => h a ha k (hq a k hk)

theorem conflict?_eq_none_iff : p.conflict? peer ips = none ↔ p.Grants peer ips := by
  induction ips with
  | nil => simp [conflict?, Grants]
  | cons ip ips ih =>
    have hcons : p.Grants peer (ip :: ips)
        ↔ (∀ h, p.holder? ip = some h → h = .peer peer) ∧ p.Grants peer ips := List.forall_mem_cons
    rw [hcons, conflict?]
    cases hip : p.holder? ip with
    | none => simpa using ih
    | some h =>
      by_cases hh : h = .peer peer
      · simpa [hh] using ih
      · simp [hh]

theorem holder?_reserveAll (p : AddressPool) (peer : Uuid) (ips : List IpAddress) (a : IpAddress) :
    (p.reserveAll peer ips).2.holder? a = if a ∈ ips then some (.peer peer) else p.holder? a := by
  induction ips generalizing p with
  | nil => simp [reserveAll]
  | cons ip ips ih =>
    rw [reserveAll]
    simp only [ih, holder?_put, List.mem_cons]
    by_cases ha : a ∈ ips
    · simp [ha]
    · by_cases hip : a = ip
      · simp [hip]
      · simp [ha, hip, Ne.symm hip]

/-- The addresses that a claim lists are those that were free. -/
theorem mem_reserveAll (p : AddressPool) (peer : Uuid) (ips : List IpAddress) (a : IpAddress) :
    a ∈ (p.reserveAll peer ips).1 ↔ a ∈ ips ∧ p.contains a = false := by
  induction ips generalizing p with
  | nil => simp [reserveAll]
  | cons ip ips ih =>
    have hput : (p.put ip (.peer peer)).contains a = false ↔ a ≠ ip ∧ p.contains a = false := by
      rw [contains_eq_false, contains_eq_false, holder?_put]
      by_cases hip : ip = a
      · simp [hip]
      · simp [hip, Ne.symm hip]
    rw [reserveAll]
    by_cases hc : p.contains ip = true
    · simp only [if_pos hc, ih, hput, List.mem_cons]
      grind
    · simp only [if_neg hc, List.mem_cons, ih, hput]
      grind

theorem claim_of_grants (h : p.Grants peer ips) :
    p.claim ips peer = (.ok (p.reserveAll peer ips).1, (p.reserveAll peer ips).2) := by
  rw [claim, conflict?_eq_none_iff.2 h]

theorem claim_of_not_grants (h : ¬ p.Grants peer ips) :
    ∃ e, p.claim ips peer = (.error e, p) := by
  rw [claim]
  cases hc : p.conflict? peer ips with
  | none => exact absurd (conflict?_eq_none_iff.1 hc) h
  | some c => exact ⟨_, rfl⟩

theorem grants_of_claim {newly : List IpAddress} (h : p.claim ips peer = (.ok newly, q)) :
    p.Grants peer ips := by
  by_cases hg : p.Grants peer ips
  · exact hg
  · obtain ⟨e, he⟩ := claim_of_not_grants hg
    cases he.symm.trans h

/-- A claim that succeeds reserves all the addresses for the peer. -/
theorem holder?_claim_of_grants (h : p.Grants peer ips) (a : IpAddress) :
    (p.claim ips peer).2.holder? a = if a ∈ ips then some (.peer peer) else p.holder? a := by
  rw [claim_of_grants h, holder?_reserveAll]

/-- A claim that fails reserves nothing. -/
theorem claim_eq_of_not_grants (h : ¬ p.Grants peer ips) : (p.claim ips peer).2 = p := by
  obtain ⟨e, he⟩ := claim_of_not_grants h
  rw [he]

theorem extends_claim (p : AddressPool) (ips : List IpAddress) (peer : Uuid) :
    (p.claim ips peer).2.Extends p := by
  by_cases h : p.Grants peer ips
  · intro a k hk
    rw [holder?_claim_of_grants h]
    by_cases ha : a ∈ ips
    · rw [if_pos ha, h a ha k hk]
    · rw [if_neg ha, hk]
  · rw [claim_eq_of_not_grants h]
    exact .refl p

/-! ## Releasing -/

theorem holder?_release (p : AddressPool) (ip a : IpAddress) :
    (p.release ip).2.holder? a = if a = ip then none else p.holder? a := by
  unfold release
  by_cases hc : p.contains ip = true
  · rw [if_pos hc, holder?_drop]
    simp only [eq_comm]
  · rw [if_neg hc]
    by_cases ha : a = ip
    · rw [if_pos ha, ha]
      exact contains_eq_false.1 (by simpa using hc)
    · rw [if_neg ha]

theorem releaseAll_cons (p : AddressPool) (ip : IpAddress) (ips : List IpAddress) :
    p.releaseAll (ip :: ips) = (p.release ip).2.releaseAll ips := rfl

theorem holder?_releaseAll (p : AddressPool) (ips : List IpAddress) (a : IpAddress) :
    (p.releaseAll ips).holder? a = if a ∈ ips then none else p.holder? a := by
  induction ips generalizing p with
  | nil => simp [releaseAll]
  | cons ip ips ih =>
    rw [releaseAll_cons, ih, holder?_release]
    by_cases ha : a ∈ ips
    · simp [ha]
    · simp [ha]

theorem holder?_releaseFor (p : AddressPool) (ip a : IpAddress) (peer : Uuid) :
    (p.releaseFor ip peer).2.holder? a
      = if a = ip ∧ p.holder? ip = some (.peer peer) then none else p.holder? a := by
  unfold releaseFor
  cases hip : p.holder? ip with
  | none => simp
  | some h =>
    by_cases hh : h = .peer peer
    · simp only [hh, if_true, holder?_drop, and_true, eq_comm]
    · simp [hh]

/-- Of the addresses listed, those that the peer holds are released, and the others are not. -/
theorem spec_releaseAllFor (p : AddressPool) (peer : Uuid) (ips : List IpAddress) (a : IpAddress) :
    (a ∈ (p.releaseAllFor peer ips).1 ↔ a ∈ ips ∧ p.holder? a = some (.peer peer)) ∧
      (p.releaseAllFor peer ips).2.holder? a
        = if a ∈ ips ∧ p.holder? a = some (.peer peer) then none else p.holder? a := by
  induction ips generalizing p with
  | nil => simp [releaseAllFor]
  | cons ip ips ih =>
    have hstep := holder?_releaseFor p ip a peer
    by_cases hip : p.holder? ip = some (.peer peer)
    · have hrel : p.releaseFor ip peer = (.ok (), p.drop ip) := by
        rw [releaseFor, hip]
        simp
      rw [hrel] at hstep
      obtain ⟨ih1, ih2⟩ := ih (p.drop ip)
      rw [releaseAllFor, hrel]
      simp only [List.mem_cons, ih1, ih2, hstep]
      by_cases ha : a = ip
      · simp [ha, hip]
      · simp [ha]
    · have hrel : ∃ e, p.releaseFor ip peer = (.error e, p) := by
        rw [releaseFor]
        cases hh : p.holder? ip with
        | none => exact ⟨_, rfl⟩
        | some h =>
          rw [hh, Option.some.injEq] at hip
          exact ⟨_, if_neg hip⟩
      obtain ⟨e, hrel⟩ := hrel
      obtain ⟨ih1, ih2⟩ := ih p
      rw [releaseAllFor, hrel]
      simp only [List.mem_cons, ih1, ih2]
      by_cases ha : a = ip
      · simp [ha, hip]
      · simp [ha]

/-! ## Allocating -/

/-- What allocation gives was free and is neither end of the block. -/
theorem spec_allocateFor {block c : Cidr} {holder : Holder}
    (h : p.allocateFor block holder = (.ok c, q)) :
    ∃ ip, c = Cidr.host ip ∧ q = p.put ip holder ∧ ip ≠ block.network ∧ ip ≠ block.broadcast ∧
      p.contains ip = false := by
  unfold allocateFor at h
  split at h
  · rename_i ip hip
    have hfree : p.isFree block ip = true := IpAddress.accepts_of_find? hip
    simp only [isFree, Bool.and_eq_true, decide_eq_true_eq, Bool.not_eq_true'] at hfree
    simp only [Prod.mk.injEq, Except.ok.injEq] at h
    exact ⟨ip, h.1.symm, h.2.symm, hfree.1.1, hfree.1.2, hfree.2⟩
  · simp at h

theorem extends_put (hfree : p.contains ip = false) (h : Holder) : (p.put ip h).Extends p := by
  intro a k hk
  rw [holder?_put]
  by_cases ha : ip = a
  · rw [← ha, contains_eq_false.1 hfree] at hk
    cases hk
  · rwa [if_neg ha]

/-! ## Blocks -/

@[simp] theorem block_release (p : AddressPool) (ip : IpAddress) :
    (p.release ip).2.block = p.block := by
  unfold release
  split
  · rfl
  · rfl

@[simp] theorem block_releaseAll (p : AddressPool) (ips : List IpAddress) :
    (p.releaseAll ips).block = p.block := by
  induction ips generalizing p with
  | nil => rfl
  | cons ip ips ih => rw [releaseAll_cons, ih, block_release]

@[simp] theorem block_releaseFor (p : AddressPool) (ip : IpAddress) (peer : Uuid) :
    (p.releaseFor ip peer).2.block = p.block := by
  unfold releaseFor
  split
  · rfl
  · split
    · rfl
    · rfl

@[simp] theorem block_releaseAllFor (p : AddressPool) (peer : Uuid) (ips : List IpAddress) :
    (p.releaseAllFor peer ips).2.block = p.block := by
  induction ips generalizing p with
  | nil => rfl
  | cons ip ips ih =>
    rw [← block_releaseFor p ip peer, releaseAllFor]
    split
    · rename_i hrel
      rw [hrel]
      exact ih _
    · rename_i hrel
      rw [hrel]
      exact ih _

@[simp] theorem block_reserveFor (p : AddressPool) (ip : IpAddress) (h : Holder) :
    (p.reserveFor ip h).2.block = p.block := by
  unfold reserveFor
  split
  · rfl
  · rfl

@[simp] theorem block_reserveAllFor (p : AddressPool) (ips : List IpAddress) (h : Holder) :
    (p.reserveAllFor ips h).block = p.block := by
  induction ips generalizing p with
  | nil => rfl
  | cons ip ips ih => rw [reserveAllFor_cons, ih, block_reserveFor]

@[simp] theorem block_reserveAll (p : AddressPool) (peer : Uuid) (ips : List IpAddress) :
    (p.reserveAll peer ips).2.block = p.block := by
  induction ips generalizing p with
  | nil => rfl
  | cons ip ips ih => exact ih (p.put ip (.peer peer))

@[simp] theorem block_claim (p : AddressPool) (ips : List IpAddress) (peer : Uuid) :
    (p.claim ips peer).2.block = p.block := by
  unfold claim
  split
  · rfl
  · exact block_reserveAll p peer ips

@[simp] theorem block_allocateFor (p : AddressPool) (block : Cidr) (holder : Holder) :
    (p.allocateFor block holder).2.block = p.block := by
  unfold allocateFor
  split
  · rfl
  · rfl

/-! ## Undoing

What is undone leaves the pool as it was, holder by holder. -/

theorem undo_put (hfree : p.contains ip = false) (h : Holder) :
    (p.put ip h).releaseAll [ip] = p := by
  refine ext_holder? (by simp) fun a => ?_
  rw [holder?_releaseAll, holder?_put]
  by_cases ha : a = ip
  · rw [if_pos (List.mem_singleton.2 ha), ha, contains_eq_false.1 hfree]
  · rw [if_neg (mt List.mem_singleton.1 ha), if_neg (Ne.symm ha)]

theorem undo_claim {newly : List IpAddress} (h : p.claim ips peer = (.ok newly, q)) :
    q.releaseAll newly = p := by
  have hgrants := grants_of_claim h
  rw [claim_of_grants hgrants] at h
  obtain ⟨h1, h2⟩ := Prod.mk.inj h
  obtain rfl := Except.ok.inj h1
  subst h2
  refine ext_holder? (by simp) fun a => ?_
  rw [holder?_releaseAll, holder?_reserveAll]
  by_cases hnew : a ∈ (p.reserveAll peer ips).1
  · rw [if_pos hnew]
    exact (contains_eq_false.1 ((mem_reserveAll p peer ips a).1 hnew).2).symm
  · rw [if_neg hnew]
    by_cases ha : a ∈ ips
    · -- not new, so it was the peer's before
      have hheld : p.contains a = true := by
        rw [mem_reserveAll] at hnew
        simpa [ha] using hnew
      obtain ⟨k, hk⟩ := contains_iff.1 hheld
      rw [if_pos ha, hk, hgrants a ha k hk]
    · rw [if_neg ha]

theorem undo_release (p : AddressPool) (peer : Uuid) (ips : List IpAddress) :
    (p.releaseAllFor peer ips).2.reserveAllFor (p.releaseAllFor peer ips).1 (.peer peer) = p := by
  refine ext_holder? (by simp) fun a => ?_
  obtain ⟨hmem, hholder⟩ := spec_releaseAllFor p peer ips a
  rw [holder?_reserveAllFor, hholder]
  by_cases ha : a ∈ ips ∧ p.holder? a = some (.peer peer)
  · rw [if_pos ha, if_pos (hmem.2 ha), ha.2]
    rfl
  · rw [if_neg ha, if_neg (mt hmem.1 ha), Option.or_none]

end AddressPool

/-! ## The first pool of a device -/

theorem Device.block_initialPool {d : Device} {pool : AddressPool} (h : d.initialPool = .ok pool) :
    d.network = .ok pool.block := by
  unfold initialPool at h
  cases hn : d.network with
  | error e => rw [hn] at h; cases h
  | ok block =>
    rw [hn] at h
    rw [← Except.ok.inj h]
    simp only [AddressPool.reserve, AddressPool.block_reserveFor, AddressPool.new,
      AddressPool.block_put]

/-- The addresses that are a device's: both ends of its block, and its own. -/
def Cidr.isOwn (c : Cidr) (a : IpAddress) : Prop := a = c.network ∨ a = c.broadcast ∨ a = c.ip

instance (c : Cidr) (a : IpAddress) : Decidable (c.isOwn a) :=
  inferInstanceAs (Decidable (_ ∨ _ ∨ _))

theorem AddressPool.holder?_new (c : Cidr) (a : IpAddress) :
    (AddressPool.new c).holder? a
      = if a = c.network ∨ a = c.broadcast then some .device else none := by
  have hempty : (⟨c, ∅⟩ : AddressPool).holder? a = none := Std.ExtTreeMap.getElem?_empty
  rw [AddressPool.new, holder?_put, holder?_put, hempty]
  by_cases h : c.broadcast = a
  · simp [h]
  · by_cases h' : c.network = a
    · simp [h']
    · simp [h, h', Ne.symm h, Ne.symm h']

theorem Device.spec_initialPool {d : Device} {pool : AddressPool} (h : d.initialPool = .ok pool) :
    ∃ block, d.network = .ok block ∧
      ∀ a, pool.holder? a = if block.isOwn a then some .device else none := by
  unfold Device.initialPool at h
  cases hn : d.network with
  | error e => rw [hn] at h; cases h
  | ok block =>
    rw [hn] at h
    refine ⟨block, rfl, fun a => ?_⟩
    rw [← Except.ok.inj h]
    simp only [AddressPool.reserve, AddressPool.holder?_reserveFor, AddressPool.holder?_new,
      Cidr.isOwn]
    by_cases h1 : a = block.network
    · simp [h1]
    · by_cases h2 : a = block.broadcast
      · simp [h2]
      · simp [h1, h2]

end TunnelKeeper
