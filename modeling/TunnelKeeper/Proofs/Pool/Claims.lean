import TunnelKeeper.Proofs.Pool.Calls

/-!
# Claims of several addresses

A claim fails at the first of its addresses that someone else holds, and then reserves none
(`conflict?_eq_some_iff`). A claim that succeeds lists what it added to the peer's reservations, each
address where it first occurs (`reserveAll_eq`), so that whoever takes the claim back by what it listed
frees nothing that the peer held before (`claim_undone`).
-/

namespace TunnelKeeper

namespace AddressPool

variable {p q : AddressPool} {ips order : List IpAddress} {a : IpAddress} {h : Holder} {peer : Uuid}

/-- Someone other than the peer holds the address. -/
def Foreign (p : AddressPool) (peer : Uuid) (a : IpAddress) (h : Holder) : Prop :=
  p.holder? a = some h ∧ h ≠ .peer peer

/-! ## Claims that fail -/

theorem conflict?_eq_some_iff : p.conflict? peer ips = some (a, h) ↔
    ∃ first rest, ips = first ++ a :: rest ∧ p.Grants peer first ∧ p.Foreign peer a h := by
  constructor
  · intro hc
    induction ips with
    | nil => cases hc
    | cons ip ips ih =>
      rw [conflict?] at hc
      have hstep : (∀ k, p.holder? ip = some k → k = .peer peer) →
          p.conflict? peer ips = some (a, h) → ∃ first rest, ip :: ips = first ++ a :: rest ∧
            p.Grants peer first ∧ p.Foreign peer a h := by
        intro hown hc
        obtain ⟨first, rest, rfl, hfirst, hforeign⟩ := ih hc
        exact ⟨ip :: first, rest, rfl, List.forall_mem_cons.2 ⟨hown, hfirst⟩, hforeign⟩
      cases hip : p.holder? ip with
      | none =>
        rw [hip] at hc
        exact hstep (by simp [hip]) hc
      | some k =>
        rw [hip] at hc
        by_cases hk : k = .peer peer
        · simp only [hk, if_true] at hc
          exact hstep (by simp [hip, hk]) hc
        · simp only [hk, if_false, Option.some.injEq, Prod.mk.injEq] at hc
          obtain ⟨rfl, rfl⟩ := hc
          exact ⟨[], ips, rfl, by simp [Grants], hip, hk⟩
  · rintro ⟨first, rest, rfl, hfirst, hheld, hother⟩
    induction first with
    | nil => simp [conflict?, hheld, hother]
    | cons ip first ih =>
      obtain ⟨hown, hfirst⟩ := List.forall_mem_cons.1 hfirst
      rw [List.cons_append, conflict?, ih hfirst]
      cases hip : p.holder? ip with
      | none => rfl
      | some k => simp [hown k hip]

theorem claim_eq_error_iff {e : PoolError} : p.claim ips peer = (.error e, q) ↔
    q = p ∧ ∃ first a rest h, ips = first ++ a :: rest ∧ p.Grants peer first ∧ p.Foreign peer a h ∧
      e = .heldByOther a h := by
  rw [claim]
  cases hc : p.conflict? peer ips with
  | none =>
    refine iff_of_false (by simp) ?_
    rintro ⟨-, first, a, rest, h, hips, hfirst, hforeign, -⟩
    rw [conflict?_eq_some_iff.2 ⟨first, rest, hips, hfirst, hforeign⟩] at hc
    cases hc
  | some c =>
    obtain ⟨a, h⟩ := c
    obtain ⟨first, rest, hips, hfirst, hforeign⟩ := conflict?_eq_some_iff.1 hc
    simp only [Prod.mk.injEq, Except.error.injEq]
    constructor
    · rintro ⟨rfl, rfl⟩
      exact ⟨rfl, first, a, rest, h, hips, hfirst, hforeign, rfl⟩
    · rintro ⟨rfl, first', a', rest', h', hips', hfirst', hforeign', rfl⟩
      have hc' := conflict?_eq_some_iff.2 ⟨first', rest', hips', hfirst', hforeign'⟩
      rw [hc, Option.some.injEq, Prod.mk.injEq] at hc'
      exact ⟨by rw [hc'.1, hc'.2], rfl⟩

theorem not_grants_iff : ¬ p.Grants peer ips ↔ ∃ a ∈ ips, ∃ h, p.Foreign peer a h := by
  simp [Grants, Foreign]

/-! ## Claims that succeed -/

/-- A claim lists the addresses that were free, each where it first occurs. -/
theorem reserveAll_eq (p : AddressPool) (peer : Uuid) (ips : List IpAddress) :
    (p.reserveAll peer ips).1 = (ips.filter fun a => !p.contains a).eraseDups := by
  induction ips generalizing p with
  | nil => rfl
  | cons ip ips ih =>
    have hput : ∀ a, (p.put ip (.peer peer)).contains a = (a == ip || p.contains a) := by
      intro a
      rw [Bool.eq_iff_iff, Bool.or_eq_true, contains_iff, contains_iff, holder?_put, beq_iff_eq]
      by_cases ha : a = ip
      · simp [ha]
      · simp [ha, Ne.symm ha]
    rw [reserveAll]
    by_cases hc : p.contains ip = true
    · -- the address was the peer's, and the rest of the list finds the pool as it was
      have hsame : ∀ a, (p.put ip (.peer peer)).contains a = p.contains a := by
        intro a
        rw [hput]
        by_cases ha : a = ip
        · simp [ha, hc]
        · simp [ha]
      simp only [hc, if_true, ih, hsame, Bool.not_true, Bool.false_eq_true, not_false_eq_true,
        List.filter_cons_of_neg]
    · -- the address is the peer's from here on, so that no later occurrence of it is listed
      have hrest : (ips.filter fun a => !(p.put ip (.peer peer)).contains a)
          = (ips.filter fun a => !p.contains a).filter fun a => !a == ip := by
        rw [List.filter_filter]
        refine List.filter_congr fun a _ => ?_
        rw [hput, Bool.not_or]
      simp only [hc, Bool.false_eq_true, if_false, ih, hrest]
      rw [List.filter_cons_of_pos (by simpa using hc), List.eraseDups_cons]

theorem nodup_reserveAll (p : AddressPool) (peer : Uuid) (ips : List IpAddress) :
    (p.reserveAll peer ips).1.Nodup := by
  induction ips generalizing p with
  | nil => simp [reserveAll]
  | cons ip ips ih =>
    rw [reserveAll]
    by_cases hc : p.contains ip = true
    · simpa only [hc, if_true] using ih _
    · simp only [hc, Bool.false_eq_true, if_false, List.nodup_cons]
      refine ⟨fun hmem => ?_, ih _⟩
      have hfree := ((mem_reserveAll _ peer ips ip).1 hmem).2
      rw [contains_eq_false, holder?_put, if_pos rfl] at hfree
      cases hfree

/-! ## Taking a claim back -/

/-- Releases, one after another, of addresses that are reserved and differ all succeed. -/
theorem release_inTurn (hnodup : order.Nodup) (hheld : ∀ a ∈ order, q.contains a = true)
    {first rest : List IpAddress} (horder : order = first ++ a :: rest) :
    ((q.releaseAll first).release a).1 = .ok () := by
  subst horder
  obtain ⟨h, hh⟩ := contains_iff.1 (hheld a (by simp))
  have hfirst : a ∉ first := fun ha => (List.nodup_append.1 hnodup).2.2 a ha a (by simp) rfl
  refine release_of_held (h := h) ?_
  rw [holder?_releaseAll, if_neg hfirst, hh]

theorem releaseAll_perm {newly : List IpAddress} (hperm : order.Perm newly) :
    q.releaseAll order = q.releaseAll newly := by
  refine ext_holder? (by simp) fun a => ?_
  rw [holder?_releaseAll, holder?_releaseAll]
  simp only [hperm.mem_iff]

/-- Whatever the pool, a claim fails if and only if someone other than the peer holds one of the
addresses; it then names the first such address with its holder, and leaves the pool. Otherwise all the
addresses are the peer's afterwards, every other address is with whom it was, and the claim lists the
addresses that were free, each once and where it first occurs. Releasing just those, in any order,
succeeds at each of them and brings the pool back that was there before the claim. -/
theorem claim_undone (p : AddressPool) (ips : List IpAddress) (peer : Uuid) :
    ((∃ e, (p.claim ips peer).1 = .error e) ↔ ∃ a ∈ ips, ∃ h, p.Foreign peer a h) ∧
    (∀ e q, p.claim ips peer = (.error e, q) ↔ q = p ∧ ∃ first a rest h, ips = first ++ a :: rest ∧
      (∀ b ∈ first, ∀ k, ¬ p.Foreign peer b k) ∧ p.Foreign peer a h ∧ e = .heldByOther a h) ∧
    ((∀ a ∈ ips, ∀ h, ¬ p.Foreign peer a h) → ∃ newly q, p.claim ips peer = (.ok newly, q) ∧
      q.block = p.block ∧ (∀ a, q.holder? a = if a ∈ ips then some (.peer peer) else p.holder? a) ∧
      newly = (ips.filter fun a => !p.contains a).eraseDups ∧
      ∀ order, order.Perm newly → q.releaseAll order = p ∧
        ∀ first a rest, order = first ++ a :: rest → ((q.releaseAll first).release a).1 = .ok ()) := by
  have hgrants : ∀ ips, (∀ a ∈ ips, ∀ h, ¬ p.Foreign peer a h) ↔ p.Grants peer ips := by
    intro ips
    simp only [Grants, Foreign, not_and, Decidable.not_not]
  refine ⟨?_, fun e q => ?_, fun hown => ?_⟩
  · rw [← not_grants_iff]
    constructor
    · rintro ⟨e, he⟩ hg
      rw [claim_of_grants hg] at he
      cases he
    · intro hg
      obtain ⟨e, he⟩ := claim_of_not_grants hg
      exact ⟨e, by rw [he]⟩
  · simp only [claim_eq_error_iff, hgrants]
  · have hg := (hgrants ips).1 hown
    have hclaim := claim_of_grants hg
    refine ⟨_, _, hclaim, by simp, holder?_reserveAll p peer ips, reserveAll_eq p peer ips,
      fun order hperm => ⟨?_, fun first a rest horder => ?_⟩⟩
    · rw [releaseAll_perm hperm, undo_claim hclaim]
    · refine release_inTurn (hperm.nodup_iff.2 (nodup_reserveAll p peer ips)) (fun b hb => ?_) horder
      have hb := ((mem_reserveAll p peer ips b).1 (hperm.mem_iff.1 hb)).1
      exact contains_iff.2 ⟨_, by rw [holder?_reserveAll, if_pos hb]⟩

end AddressPool

/-! ## A claim of an address of its own, a free one and a repeated one -/

namespace Sample

/-- The first owner has one address. -/
def ownedPool : AddressPool := ((AddressPool.new smallBlock).reserveFor lowHost (.peer firstOwner)).2

theorem claim_undone_mixed :
    (∃ newly q, ownedPool.claim [lowHost, .v4 10 0 0 2, .v4 10 0 0 2] firstOwner = (.ok newly, q) ∧
      newly = [.v4 10 0 0 2] ∧ q.releaseAll newly = ownedPool) ∧
    ownedPool.claim [.v4 10 0 0 2, lowHost, .v4 10 0 0 3] laterOwner
      = (.error (.heldByOther lowHost (.peer firstOwner)), ownedPool) := by
  obtain ⟨-, -, hgranted⟩ :=
    AddressPool.claim_undone ownedPool [lowHost, .v4 10 0 0 2, .v4 10 0 0 2] firstOwner
  obtain ⟨-, hfails, -⟩ :=
    AddressPool.claim_undone ownedPool [.v4 10 0 0 2, lowHost, .v4 10 0 0 3] laterOwner
  have hheld : ownedPool.holder? lowHost = some (.peer firstOwner) := by decide +kernel
  have hfree : ownedPool.holder? (.v4 10 0 0 2) = none := by decide +kernel
  constructor
  · obtain ⟨newly, q, hclaim, -, -, hnewly, hundo⟩ := hgranted (by
      simp [AddressPool.Foreign, hheld, hfree])
    have hone : newly = [.v4 10 0 0 2] := hnewly.trans (by decide +kernel)
    exact ⟨newly, q, hclaim, hone, (hundo newly (.refl _)).1⟩
  · refine (hfails _ _).2 ⟨rfl, [.v4 10 0 0 2], lowHost, [.v4 10 0 0 3], .peer firstOwner, rfl, ?_,
      ⟨hheld, by decide⟩, rfl⟩
    simp [AddressPool.Foreign, hfree]

end Sample

end TunnelKeeper
