import TunnelKeeper.Kernel.Table

/-!
# Kernels that do what they say

`Gateway.Faithful g peersOf` says what may be relied on of a kernel: reading an interface gives its
peers, a change that succeeds is the one that was asked for and one that fails is none, and creating
or deleting an interface gives it no peers. When a call fails is left open. The kernel in memory is
faithful, whatever it has been told to refuse.
-/

namespace TunnelKeeper

variable {κ : Type}

/-- A kernel of which `peersOf` gives the peers of each interface, none where there is no such
interface. -/
structure Gateway.Faithful (g : Gateway κ) (peersOf : κ → String → List KernelPeer) : Prop where
  read_ok : ∀ {k k' name s}, g.read name k = (.ok s, k') →
    s.peers = peersOf k name ∧ peersOf k' = peersOf k
  read_error : ∀ {k k' name e}, g.read name k = (.error e, k') → peersOf k' = peersOf k
  configure_ok : ∀ {k k' name cs}, g.configure name cs k = (.ok (), k') →
    peersOf k' name = PeerChange.applyAll cs (peersOf k name) ∧
      ∀ other, other ≠ name → peersOf k' other = peersOf k other
  configure_error : ∀ {k k' name cs e}, g.configure name cs k = (.error e, k') →
    peersOf k' = peersOf k
  provision : ∀ {k k' name settings r}, g.provision name settings k = (r, k') →
    peersOf k' = peersOf k
  remove : ∀ {k k' name r}, g.remove name k = (r, k') →
    (peersOf k' name = peersOf k name ∨ peersOf k' name = []) ∧
      ∀ other, other ≠ name → peersOf k' other = peersOf k other

namespace MemoryKernel

/-- The peers of an interface. -/
def peersOf (k : MemoryKernel) (name : String) : List KernelPeer :=
  (k.table[name]?.map Snapshot.peers).getD []

theorem peersOf_insert {k : MemoryKernel} {table : KernelTable} {name : String} {s : Snapshot}
    (h : k.table = table.insert name s) (other : String) :
    k.peersOf other
      = if other = name then s.peers else (table[other]?.map Snapshot.peers).getD [] := by
  rw [peersOf, h, Std.ExtTreeMap.getElem?_insert]
  by_cases ho : other = name
  · rw [if_pos ho, if_pos (by rw [ho]; exact Std.ReflCmp.compare_self)]
    rfl
  · rw [if_neg ho, if_neg (by simpa using Ne.symm ho)]

theorem mem_peersOf {k : MemoryKernel} {name : String} {p : KernelPeer} (h : p ∈ k.peersOf name) :
    ∃ s, k.table[name]? = some s ∧ p ∈ s.peers := by
  rw [peersOf] at h
  cases hs : k.table[name]? with
  | none => simp [hs] at h
  | some s =>
    simp only [hs, Option.map_some, Option.getD_some] at h
    exact ⟨s, rfl, h⟩

/-- A call that is refused leaves the table, and one that is not carries out its effect. -/
theorem spec_call {α : Type} {device : String} {request : KernelRequest}
    {effect : KernelTable → Except KernelError α × KernelTable} {k k' : MemoryKernel}
    {r : Except KernelError α} (h : call device request effect k = (r, k')) :
    (k'.table = k.table ∧ ∃ e, r = .error e) ∨ effect k.table = (r, k'.table) := by
  unfold call at h
  split at h
  · obtain ⟨rfl, rfl⟩ := Prod.mk.inj h
    exact .inl ⟨rfl, _, rfl⟩
  · obtain ⟨rfl, rfl⟩ := Prod.mk.inj h
    exact .inr rfl

/-- Every call is noted, also a refused one. -/
theorem calls_call {α : Type} (device : String) (request : KernelRequest)
    (effect : KernelTable → Except KernelError α × KernelTable) (k : MemoryKernel) :
    (call device request effect k).2.calls = k.calls
      ++ [⟨request, device, (k.fault? request.operation device).isSome⟩] := by
  unfold call
  cases k.fault? request.operation device with
  | some f => rfl
  | none => rfl

theorem peersOf_eq {k k' : MemoryKernel} (h : k'.table = k.table) : k'.peersOf = k.peersOf := by
  funext name
  rw [peersOf, peersOf, h]

/-- Reading leaves the table, and gives an interface of it. -/
theorem table_of_read {k k' : MemoryKernel} {name : String} {r : Except KernelError Snapshot}
    (h : gateway.read name k = (r, k')) :
    k'.table = k.table ∧ ∀ s, r = .ok s → k.table[name]? = some s := by
  simp only [gateway] at h
  rcases spec_call h with ⟨htable, e, rfl⟩ | h
  · exact ⟨htable, fun s hs => by cases hs⟩
  · cases ht : k.table[name]? with
    | none =>
      simp only [ht, Prod.mk.injEq] at h
      exact ⟨h.2.symm, fun s hs => by cases h.1.trans hs⟩
    | some t =>
      simp only [ht, Prod.mk.injEq] at h
      exact ⟨h.2.symm, fun s hs => by rw [Except.ok.inj (h.1.trans hs)]⟩

/-- A change of peers leaves the table, or it is the one that was asked for. -/
theorem table_of_configure {k k' : MemoryKernel} {name : String} {cs : List PeerChange}
    {r : Except KernelError Unit} (h : gateway.configure name cs k = (r, k')) :
    (k'.table = k.table ∧ ∃ e, r = .error e) ∨
      r = .ok () ∧ ∃ s, k.table[name]? = some s ∧ k'.table = k.table.configured name s cs := by
  simp only [gateway] at h
  rcases spec_call h with hrefused | h
  · exact .inl hrefused
  · cases ht : k.table[name]? with
    | none =>
      simp only [ht, Prod.mk.injEq] at h
      exact .inl ⟨h.2.symm, _, h.1.symm⟩
    | some s =>
      simp only [ht, Prod.mk.injEq] at h
      exact .inr ⟨h.1.symm, s, rfl, h.2.symm⟩

/-- Without orders to refuse, the peers of an interface can be changed. -/
theorem configure_of_table {k : MemoryKernel} {name : String} {s : Snapshot} (hk : k.faults = [])
    (hs : k.table[name]? = some s) (cs : List PeerChange) :
    ∃ k', gateway.configure name cs k = (.ok (), k') ∧ k'.faults = [] ∧
      k'.table = k.table.configured name s cs := by
  have hfault : k.fault? (KernelRequest.configure cs).operation name = none := by
    rw [fault?, hk]
    rfl
  simp only [gateway, call, hfault, hs]
  exact ⟨_, rfl, hk, rfl⟩

theorem peersOf_of_provision {k k' : MemoryKernel} {name : String} {settings : InterfaceSettings}
    {r : Except KernelError Unit} (h : gateway.provision name settings k = (r, k')) :
    k'.peersOf = k.peersOf := by
  simp only [gateway] at h
  rcases spec_call h with ⟨htable, -⟩ | h
  · exact peersOf_eq htable
  · funext other
    rw [peersOf_insert (Prod.mk.inj h).2.symm]
    by_cases ho : other = name
    · rw [if_pos ho, ho, peersOf]
      cases k.table[name]? with
      | none => rfl
      | some t => rfl
    · rw [if_neg ho]
      rfl

theorem table_of_remove {k k' : MemoryKernel} {name : String} {r : Except KernelError Unit}
    (h : gateway.remove name k = (r, k')) :
    k'.table = k.table ∨ k'.table = k.table.erase name := by
  simp only [gateway] at h
  rcases spec_call h with ⟨htable, -⟩ | h
  · exact .inl htable
  · exact .inr (Prod.mk.inj h).2.symm

theorem faithful : Gateway.Faithful gateway peersOf where
  read_ok := by
    intro k k' name s h
    obtain ⟨htable, hread⟩ := table_of_read h
    refine ⟨?_, peersOf_eq htable⟩
    rw [peersOf, hread s rfl]
    rfl
  read_error := fun h => peersOf_eq (table_of_read h).1
  configure_ok := by
    intro k k' name cs h
    rcases table_of_configure h with ⟨-, e, he⟩ | ⟨-, s, hs, htable⟩
    · cases he
    · refine ⟨?_, fun other ho => ?_⟩
      · rw [peersOf_insert htable, if_pos rfl, peersOf, hs]
        rfl
      · rw [peersOf_insert htable, if_neg ho]
        rfl
  configure_error := by
    intro k k' name cs e h
    rcases table_of_configure h with ⟨htable, -⟩ | ⟨he, -⟩
    · exact peersOf_eq htable
    · cases he
  provision := peersOf_of_provision
  remove := by
    intro k k' name r h
    rcases table_of_remove h with htable | htable
    · rw [peersOf_eq htable]
      exact ⟨.inl rfl, fun _ _ => rfl⟩
    · refine ⟨.inr ?_, fun other ho => ?_⟩
      · rw [peersOf, htable, Std.ExtTreeMap.getElem?_erase_self]
        rfl
      · rw [peersOf, peersOf, htable, Std.ExtTreeMap.getElem?_erase,
          if_neg (by simpa using Ne.symm ho)]

end MemoryKernel

end TunnelKeeper
