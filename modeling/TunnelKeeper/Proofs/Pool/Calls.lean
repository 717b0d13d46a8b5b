import Mathlib.Data.List.Nodup
import TunnelKeeper.Proofs.Pool.Holders

/-!
# Reservations over a run of calls

A reserved address stays with its holder until a call releases it: `release`, whoever holds it, or
`releaseFor` of the peer that does (`PoolCall.Frees`). No other call takes it away, whatever it lists and
whomever it is made for (`holder?_after`). Over a run of calls an address that is not with its holder any
more was therefore released by one of them (`freed_of_run`), and so was one that is handed out for the
second time (`freed_between`).
-/

namespace TunnelKeeper

/-- What a pool is asked to do. -/
inductive PoolCall
  | reserveFor (ip : IpAddress) (holder : Holder)
  | claim (ips : List IpAddress) (peer : Uuid)
  | release (ip : IpAddress)
  | releaseFor (ip : IpAddress) (peer : Uuid)
  | allocateFor (block : Cidr) (holder : Holder)

namespace PoolCall

/-- The pool after the call, whatever came of it. -/
def after (p : AddressPool) : PoolCall → AddressPool
  | .reserveFor ip holder => (p.reserveFor ip holder).2
  | .claim ips peer => (p.claim ips peer).2
  | .release ip => (p.release ip).2
  | .releaseFor ip peer => (p.releaseFor ip peer).2
  | .allocateFor block holder => (p.allocateFor block holder).2

/-- For whom the call is made; a plain release is made for nobody. -/
def holder? : PoolCall → Option Holder
  | .reserveFor _ holder => some holder
  | .claim _ peer => some (.peer peer)
  | .release _ => none
  | .releaseFor _ peer => some (.peer peer)
  | .allocateFor _ holder => some holder

/-- The call releases the address `a` that `h` holds, and succeeds. -/
inductive Frees (p : AddressPool) (a : IpAddress) : Holder → PoolCall → Prop
  | release {h : Holder} (released : (p.release a).1 = .ok ()) : Frees p a h (.release a)
  | releaseFor {peer : Uuid} (released : (p.releaseFor a peer).1 = .ok ()) :
    Frees p a (.peer peer) (.releaseFor a peer)

end PoolCall

namespace AddressPool

variable {p : AddressPool} {a : IpAddress} {h : Holder} {c : PoolCall} {cs : List PoolCall}

/-- The pool after calls, one after another. -/
def afterCalls (p : AddressPool) (cs : List PoolCall) : AddressPool := cs.foldl PoolCall.after p

/-! ## One call -/

theorem release_of_held (hp : p.holder? a = some h) : (p.release a).1 = .ok () := by
  rw [release, if_pos (contains_iff.2 ⟨h, hp⟩)]

theorem releaseFor_of_held {peer : Uuid} (hp : p.holder? a = some (.peer peer)) :
    (p.releaseFor a peer).1 = .ok () := by
  simp [releaseFor, hp]

theorem extends_allocateFor (p : AddressPool) (block : Cidr) (holder : Holder) :
    (p.allocateFor block holder).2.Extends p := by
  rcases halloc : p.allocateFor block holder with ⟨e | given, q⟩
  · obtain rfl : p = q := by
      unfold allocateFor at halloc
      split at halloc
      · cases halloc
      · exact (Prod.mk.inj halloc).2
    exact .refl p
  · obtain ⟨ip, -, rfl, -, -, hfree⟩ := spec_allocateFor halloc
    exact extends_put hfree holder

/-- A call that frees a reserved address leaves it to nobody. -/
theorem holder?_of_frees (hp : p.holder? a = some h) (hc : c.Frees p a h) :
    (c.after p).holder? a = none := by
  cases hc with
  | release => rw [PoolCall.after, holder?_release, if_pos rfl]
  | releaseFor => rw [PoolCall.after, holder?_releaseFor, if_pos ⟨rfl, hp⟩]

/-- After a call a reserved address is with its holder, or the call freed it. -/
theorem holder?_after (hp : p.holder? a = some h) (c : PoolCall) :
    (c.after p).holder? a = some h ∨ c.Frees p a h := by
  cases c with
  | reserveFor ip holder =>
    left
    rw [PoolCall.after, holder?_reserveFor, hp]
    rfl
  | claim ips peer => exact .inl (p.extends_claim ips peer a h hp)
  | release ip =>
    by_cases ha : a = ip
    · subst ha
      exact .inr (.release (release_of_held hp))
    · left
      rw [PoolCall.after, holder?_release, if_neg ha, hp]
  | releaseFor ip peer =>
    by_cases ha : a = ip ∧ p.holder? ip = some (.peer peer)
    · obtain ⟨rfl, hpeer⟩ := ha
      obtain rfl := Option.some.inj (hp.symm.trans hpeer)
      exact .inr (.releaseFor (releaseFor_of_held hp))
    · left
      rw [PoolCall.after, holder?_releaseFor, if_neg ha, hp]
  | allocateFor block holder => exact .inl (p.extends_allocateFor block holder a h hp)

/-- Every call but a release that succeeds leaves a reserved address to its holder. -/
theorem holder?_after_iff (hp : p.holder? a = some h) (c : PoolCall) :
    (c.after p).holder? a ≠ some h ↔ c.Frees p a h := by
  refine ⟨(holder?_after hp c).resolve_left, fun hc hheld => ?_⟩
  rw [holder?_of_frees hp hc] at hheld
  cases hheld

/-- A call that frees an address is a plain release, or is made for the holder. -/
theorem holder?_eq_of_frees (hc : c.Frees p a h) :
    c.holder? = none ∨ c.holder? = some h ∧ ∃ peer, h = .peer peer := by
  cases hc with
  | release => exact .inl rfl
  | releaseFor => exact .inr ⟨rfl, _, rfl⟩

/-- What allocation gives was nobody's, and is with the holder it was made for. -/
theorem holder?_of_allocateFor {block given : Cidr} {holder : Holder}
    (halloc : (p.allocateFor block holder).1 = .ok given) :
    p.holder? given.ip = none ∧
      ((PoolCall.allocateFor block holder).after p).holder? given.ip = some holder := by
  obtain ⟨ip, rfl, hq, -, -, hfree⟩ := spec_allocateFor (Prod.ext halloc rfl)
  have hafter : (PoolCall.allocateFor block holder).after p = p.put ip holder := hq
  refine ⟨contains_eq_false.1 hfree, ?_⟩
  rw [hafter, holder?_put]
  exact if_pos rfl

/-! ## A run of calls -/

/-- One of the calls, made on `p` one after another, frees the address, which `h` holds by then. -/
def FreedIn (p : AddressPool) (cs : List PoolCall) (a : IpAddress) (h : Holder) : Prop :=
  ∃ first c rest, cs = first ++ c :: rest ∧ (p.afterCalls first).holder? a = some h ∧
    c.Frees (p.afterCalls first) a h

theorem FreedIn.head (hp : p.holder? a = some h) (hc : c.Frees p a h) : p.FreedIn (c :: cs) a h :=
  ⟨[], c, cs, rfl, hp, hc⟩

theorem FreedIn.tail (hfreed : (c.after p).FreedIn cs a h) : p.FreedIn (c :: cs) a h := by
  obtain ⟨first, d, rest, rfl, hheld, hd⟩ := hfreed
  exact ⟨c :: first, d, rest, rfl, hheld, hd⟩

/-- After a run of calls a reserved address is with its holder, unless one of them freed it. -/
theorem freed_of_run (hp : p.holder? a = some h) (hlost : (p.afterCalls cs).holder? a ≠ some h) :
    p.FreedIn cs a h := by
  induction cs generalizing p with
  | nil => exact absurd hp hlost
  | cons c cs ih =>
    rcases holder?_after hp c with hheld | hfrees
    · exact (ih hheld hlost).tail
    · exact .head hp hfrees

/-- Calls that are made for others, none of them a plain release, leave an address to its holder. -/
theorem holder?_of_others (hp : p.holder? a = some h)
    (hcs : ∀ c ∈ cs, c.holder? ≠ none ∧ ∀ peer, h = .peer peer → c.holder? ≠ some h) :
    (p.afterCalls cs).holder? a = some h := by
  by_cases hheld : (p.afterCalls cs).holder? a = some h
  · exact hheld
  · obtain ⟨first, c, rest, rfl, -, hfrees⟩ := freed_of_run hp hheld
    obtain ⟨hsome, hother⟩ := hcs c (List.mem_append_right _ List.mem_cons_self)
    rcases holder?_eq_of_frees hfrees with hnone | ⟨hown, peer, hpeer⟩
    · exact absurd hnone hsome
    · exact absurd hown (hother peer hpeer)

/-- Whatever has been asked of the pool of a block so far, a call takes a reserved address from its holder
if and only if it is a release of that address, or the holder's own, and succeeds; the address is nobody's
then. So over a run of calls an address that is lost to its holder was released on the way, and so was one
that two allocations give. A run without plain releases leaves to every holder what only others ask for. -/
theorem freed_between (block : Cidr) (before between : List PoolCall) :
    let p := (new block).afterCalls before
    (∀ (c : PoolCall) a h, p.holder? a = some h →
      ((c.after p).holder? a ≠ some h ↔ c.Frees p a h) ∧
        (c.Frees p a h → (c.after p).holder? a = none)) ∧
    (∀ a h, p.holder? a = some h → (p.afterCalls between).holder? a ≠ some h →
      p.FreedIn between a h) ∧
    (∀ (block₁ : Cidr) h₁ given₁ (block₂ : Cidr) h₂ given₂,
      (p.allocateFor block₁ h₁).1 = .ok given₁ →
        let q := (PoolCall.allocateFor block₁ h₁).after p
        ((q.afterCalls between).allocateFor block₂ h₂).1 = .ok given₂ → given₁.ip = given₂.ip →
          q.FreedIn between given₁.ip h₁) ∧
    (∀ a h, p.holder? a = some h →
      (∀ c ∈ between, c.holder? ≠ none ∧ ∀ peer, h = .peer peer → c.holder? ≠ some h) →
        (p.afterCalls between).holder? a = some h) := by
  refine ⟨fun c a h hp => ⟨holder?_after_iff hp c, holder?_of_frees hp⟩, fun a h => freed_of_run, ?_,
    fun a h => holder?_of_others⟩
  intro block₁ h₁ given₁ block₂ h₂ given₂ hfirst q hsecond hsame
  refine freed_of_run (holder?_of_allocateFor hfirst).2 fun hheld => ?_
  rw [hsame, (holder?_of_allocateFor hsecond).1] at hheld
  cases hheld

end AddressPool

/-! ## An address that is handed out twice -/

namespace Sample

/-- Four addresses, of which two can be handed out. -/
def smallBlock : Cidr := ⟨.v4 10 0 0 1, 30, by decide⟩

def lowHost : IpAddress := .v4 10 0 0 1

def firstOwner : Uuid := .nil

def laterOwner : Uuid := ⟨List.replicate 16 1, by decide⟩

/-- The second claim succeeds, but asks for the other address. -/
def othersCalls : List PoolCall :=
  [.claim [.v4 10 0 0 2, lowHost] laterOwner, .claim [.v4 10 0 0 2] laterOwner,
    .releaseFor lowHost laterOwner, .reserveFor lowHost .kernel]

theorem freed_between_reused :
    let q := (PoolCall.allocateFor smallBlock (.peer firstOwner)).after (AddressPool.new smallBlock)
    (q.holder? lowHost = some (.peer firstOwner) ∧
      (q.afterCalls othersCalls).holder? lowHost = some (.peer firstOwner)) ∧
    ((q.afterCalls (othersCalls ++ [.releaseFor lowHost firstOwner])).allocateFor smallBlock .kernel).1
        = .ok (.host lowHost) ∧
      q.FreedIn (othersCalls ++ [.releaseFor lowHost firstOwner]) lowHost (.peer firstOwner) := by
  have hfirst : ((AddressPool.new smallBlock).allocateFor smallBlock (.peer firstOwner)).1
      = .ok (.host lowHost) := by
    decide +kernel
  have hsecond : ((((PoolCall.allocateFor smallBlock (.peer firstOwner)).after
      (AddressPool.new smallBlock)).afterCalls
        (othersCalls ++ [.releaseFor lowHost firstOwner])).allocateFor smallBlock .kernel).1
      = .ok (.host lowHost) := by
    decide +kernel
  have hheld : ((AddressPool.new smallBlock).afterCalls
      [.allocateFor smallBlock (.peer firstOwner)]).holder? lowHost = some (.peer firstOwner) := by
    decide +kernel
  have hothers : ∀ c ∈ othersCalls, c.holder? ≠ none ∧
      ∀ peer, Holder.peer firstOwner = .peer peer → c.holder? ≠ some (.peer firstOwner) := by
    have hnot : ∀ c ∈ othersCalls, c.holder? ≠ none ∧ c.holder? ≠ some (.peer firstOwner) := by decide
    exact fun c hc => ⟨(hnot c hc).1, fun _ _ => (hnot c hc).2⟩
  obtain ⟨-, -, hreused, -⟩ := AddressPool.freed_between smallBlock []
    (othersCalls ++ [.releaseFor lowHost firstOwner])
  obtain ⟨-, -, -, hkept⟩ := AddressPool.freed_between smallBlock
    [.allocateFor smallBlock (.peer firstOwner)] othersCalls
  exact ⟨⟨hheld, hkept _ _ hheld hothers⟩, hsecond,
    hreused _ _ _ _ _ _ hfirst hsecond rfl⟩

end Sample

end TunnelKeeper
