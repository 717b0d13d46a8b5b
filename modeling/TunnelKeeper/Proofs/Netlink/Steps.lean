import TunnelKeeper.Kernel.Table
import TunnelKeeper.Netlink.Gateway
import TunnelKeeper.Proofs.Attempt
import TunnelKeeper.Proofs.Netlink.Table

/-!
# What requests do where none fails

`Yields x t a t'` says what an operation does to the links of a kernel where no step is told to fail:
each request has its rule, and operations are put together by `Yields.bind`. A kernel with failing
steps makes operations fail and changes nothing else about them (`Bold`), so an operation that
succeeds there does what it does without them (`Yields.of_ok`). The question whether a tunnel exists
is the one that is not so: where the links cannot be listed, it is answered with no. However a call
comes out, the table stays sound, and so along every run of calls (`sound_of_calls`).
-/

namespace TunnelKeeper.Netlink

variable {α β : Type} {x : Attempt KernelError Kernel α} {f : α → Attempt KernelError Kernel β}
  {k k' : Kernel} {t t' t'' : LinkTable} {a : α} {b : β} {name : String} {l : Link}

/-! ## Operations where no step fails -/

/-- A kernel with the links `t` where no step fails. -/
structure Kernel.Calm (t : LinkTable) (k : Kernel) : Prop where
  failing : k.failing = []
  table : k.table = t

/-- Where no step fails, the operation gives `a` on the links `t` and leaves the links `t'`. -/
def Yields (x : Attempt KernelError Kernel α) (t : LinkTable) (a : α) (t' : LinkTable) : Prop :=
  Attempt.Triple (Kernel.Calm t) x (fun a' k => a' = a ∧ k.Calm t') fun _ => False

theorem Yields.of_run (h : ∀ k, k.Calm t → ∃ k', x k = (.ok a, k') ∧ k'.Calm t') :
    Yields x t a t' := by
  intro k hk
  obtain ⟨k', hx, hk'⟩ := h k hk
  rw [hx]
  exact ⟨fun a' ha => ⟨(Except.ok.inj ha).symm, hk'⟩, fun e he => by cases he⟩

theorem Yields.run (hx : Yields x t a t') (hk : k.Calm t) : ∃ k', x k = (.ok a, k') ∧ k'.Calm t' := by
  cases hr : (x k).1 with
  | ok a' =>
    obtain ⟨rfl, hk'⟩ := (hx k hk).1 a' hr
    exact ⟨_, Attempt.run_eq hr, hk'⟩
  | error e => exact ((hx k hk).2 e hr).elim

theorem Yields.pure (a : α) (t : LinkTable) :
    Yields (Pure.pure a : Attempt KernelError Kernel α) t a t :=
  Attempt.Triple.pure fun _ hk => ⟨rfl, hk⟩

theorem Yields.bind (hx : Yields x t a t') (hf : Yields (f a) t' b t'') :
    Yields (x >>= f) t b t'' := by
  refine Attempt.Triple.bind hx fun a' => .fact (fun _ h => h.1) ?_
  rintro rfl
  exact hf.pre fun _ h => h.2

theorem Yields.capture (hx : Yields x t a t') :
    Yields (Attempt.capture x : Attempt KernelError Kernel (Except KernelError α)) t (.ok a) t' :=
  .of_run fun k hk => by
    obtain ⟨k', hx, hk'⟩ := hx.run hk
    exact ⟨k', by rw [Attempt.capture_apply, hx], hk'⟩

theorem yields_openSocket (s : Step) (t : LinkTable) : Yields (openSocket s) t () t :=
  .of_run fun k hk => ⟨k, by simp [openSocket, hk.failing], hk⟩

theorem yields_openTunnels (t : LinkTable) : Yields openTunnels t () t :=
  (yields_openSocket _ t).bind (yields_openSocket _ t)

theorem yields_send {r : Request} {effect : LinkTable → Option (α × LinkTable)}
    (h : effect t = some (a, t')) : Yields (send r effect) t a t' := by
  refine .of_run fun k hk => ?_
  refine ⟨{ k with requests := k.requests ++ [r], table := t' }, ?_, hk.failing, rfl⟩
  simp [send, hk.failing, hk.table, h]

/-! ## Failing steps -/

theorem openSocket_ok {s : Step} {u : Unit} (h : openSocket s k = (.ok u, k')) : k' = k := by
  unfold openSocket at h
  split at h
  · cases h
  · exact (Prod.mk.inj h).2.symm

/-- A request that succeeds is noted, and has its effect. -/
theorem send_ok {r : Request} {effect : LinkTable → Option (α × LinkTable)}
    (h : send r effect k = (.ok a, k')) :
    ∃ t', effect k.table = some (a, t') ∧
      k' = { k with requests := k.requests ++ [r], table := t' } := by
  simp only [send] at h
  split at h
  · cases h
  · split at h
    · rename_i a' t' heffect
      obtain ⟨ha, rfl⟩ := Prod.mk.inj h
      exact ⟨t', Except.ok.inj ha ▸ heffect, rfl⟩
    · cases h

/-- The kernel without its failing steps. -/
def Kernel.unfailing (k : Kernel) : Kernel := { k with failing := [] }

/-- Where the operation succeeds, it does as it does without failing steps. -/
def Bold (x : Attempt KernelError Kernel α) : Prop :=
  ∀ k a k', x k = (.ok a, k') → x k.unfailing = (.ok a, k'.unfailing)

theorem Bold.bind (hx : Bold x) (hf : ∀ a, Bold (f a)) : Bold (x >>= f) := by
  intro k b k' h
  obtain ⟨a, k₁, hxk, hfk⟩ := Attempt.bind_eq_ok.1 h
  exact (Attempt.bind_of_ok (hx k a k₁ hxk)).trans (hf a k₁ b k' hfk)

theorem Bold.pure (a : α) : Bold (Pure.pure a : Attempt KernelError Kernel α) := by
  intro k b k' h
  obtain ⟨rfl, rfl⟩ := Attempt.pure_eq_ok.1 h
  rfl

theorem bold_openSocket (s : Step) : Bold (openSocket s) := by
  intro k _ k' h
  obtain rfl := openSocket_ok h
  rfl

theorem bold_openTunnels : Bold openTunnels :=
  (bold_openSocket _).bind fun _ => bold_openSocket _

theorem bold_send (r : Request) (effect : LinkTable → Option (α × LinkTable)) :
    Bold (send r effect) := by
  intro k a k' h
  obtain ⟨t', heffect, rfl⟩ := send_ok h
  simp [send, Kernel.unfailing, heffect]

/-- What succeeds does what it yields, also on a kernel with failing steps. -/
theorem Yields.of_ok (hx : Yields x t a t') (hbold : Bold x) (ht : k.table = t) {a' : α}
    (h : x k = (.ok a', k')) : a' = a ∧ k'.table = t' := by
  have hcalm : k.unfailing.Calm t := ⟨rfl, ht⟩
  obtain ⟨ha, hk'⟩ := Attempt.Triple.ok hx hcalm (hbold k a' k' h)
  exact ⟨ha, hk'.table⟩

/-! ## Whether there is a tunnel -/

/-- The table has a tunnel of this name. -/
def listsTunnel (t : LinkTable) (name : String) : Bool :=
  ((t.links.filter Link.isTunnel).map Link.name).contains name

theorem listsTunnel_iff :
    listsTunnel t name = true ↔ ∃ l ∈ t.links, l.isTunnel = true ∧ l.name = name := by
  simp [listsTunnel, and_assoc]

theorem listsTunnel_of_tunnel? (h : t.tunnel? name = some l) : listsTunnel t name = true := by
  obtain ⟨hfind, htunnel⟩ := LinkTable.tunnel?_eq_some.1 h
  obtain ⟨hmem, hname⟩ := LinkTable.mem_of_find? hfind
  exact listsTunnel_iff.2 ⟨l, hmem, htunnel, hname⟩

theorem exists_tunnel?_of_listsTunnel (ht : t.Sound) (h : listsTunnel t name = true) :
    ∃ l, t.tunnel? name = some l := by
  obtain ⟨l, hl, htunnel, rfl⟩ := listsTunnel_iff.1 h
  exact ⟨l, LinkTable.tunnel?_eq_some.2 ⟨ht.find?_of_mem hl, htunnel⟩⟩

theorem yields_tunnelExists (t : LinkTable) (name : String) :
    Yields (tunnelExists name) t (listsTunnel t name) t :=
  (yields_openSocket _ t).bind ((yields_send rfl).capture.bind (.pure _ t))

/-- Where the links are not listed, they stay as they are. -/
theorem listTunnels_run (k : Kernel) : (listTunnels k).2.table = k.table ∧
    ∀ names, (listTunnels k).1 = .ok names →
      names = (k.table.links.filter Link.isTunnel).map Link.name := by
  unfold listTunnels send
  simp only
  split
  · exact ⟨rfl, fun names h => by cases h⟩
  · exact ⟨rfl, fun names h => (Except.ok.inj h).symm⟩

/-- A tunnel that is said to exist does, also on a kernel with failing steps. -/
theorem tunnelExists_ok {there : Bool} (h : tunnelExists name k = (.ok there, k')) :
    k'.table = k.table ∧ (there = true → listsTunnel k.table name = true) := by
  obtain ⟨_, k₁, hopen, hlist⟩ := Attempt.bind_eq_ok.1 h
  obtain rfl := openSocket_ok hopen
  obtain ⟨htable, hnames⟩ := listTunnels_run k₁
  rw [Attempt.bind_of_ok (Attempt.capture_apply listTunnels k₁)] at hlist
  obtain ⟨rfl, rfl⟩ := Attempt.pure_eq_ok.1 hlist
  refine ⟨htable, fun hthere => ?_⟩
  cases hr : (listTunnels k₁).1 with
  | error e => simp [hr, Except.toOption] at hthere
  | ok names => rwa [hr, hnames names hr] at hthere

theorem yields_requireTunnel (h : t.tunnel? name = some l) : Yields (requireTunnel name) t () t := by
  refine (yields_tunnelExists t name).bind ?_
  rw [if_pos (listsTunnel_of_tunnel? h)]
  exact .pure () t

/-! ## Requests about one link -/

theorem yields_getTunnel (h : t.tunnel? name = some l) : Yields (getTunnel name) t l t :=
  yields_send (by rw [h, Option.map_some])

theorem yields_setTunnel (h : t.tunnel? name = some l) (s : TunnelSetting) :
    Yields (setTunnel name s) t () (t.change (·.name = name) s.applyTo) :=
  yields_send (by rw [h, Option.map_some])

theorem yields_getIndex (h : t.find? name = some l) : Yields (getIndex name) t l.index t :=
  yields_send (by rw [h, Option.map_some])

/-! ## Addresses -/

theorem foldl_erase_self (l : List Cidr) : l.foldl List.erase l = [] := by
  induction l with
  | nil => rfl
  | cons a l ih => rw [List.foldl_cons, List.erase_cons_head, ih]

/-- The link without one of each of these addresses. -/
def eraseAddresses (as : List Cidr) (l : Link) : Link :=
  { l with addresses := as.foldl List.erase l.addresses }

/-- The link with this address and no other. -/
def onlyAddress (address : Cidr) (l : Link) : Link := { l with addresses := [address] }

/-- Addresses are taken from a link one after another. -/
theorem yields_deleteAddresses (index : Nat) (as : List Cidr) (t : LinkTable) :
    Yields (deleteAddresses index as) t () (t.change (·.index = index) (eraseAddresses as)) := by
  induction as generalizing t with
  | nil =>
    rw [LinkTable.change_id (f := eraseAddresses []) t _ fun l _ _ => rfl]
    exact .pure () t
  | cons a as ih =>
    have hrest := ih (t.change (·.index = index) (eraseAddresses [a]))
    rw [LinkTable.change_change (f := eraseAddresses [a])] at hrest
    · exact (yields_send rfl).bind hrest
    · exact fun l hl => hl

theorem bold_deleteAddresses (index : Nat) (as : List Cidr) : Bold (deleteAddresses index as) := by
  induction as with
  | nil => exact .pure ()
  | cons a as ih => exact (bold_send _ _).bind fun _ => ih

/-- A link has an address that was assigned, and no other. -/
theorem yields_assignAddress (ht : t.Sound) (h : t.find? name = some l) (address : Cidr) :
    Yields (assignAddress name address) t ()
      (t.change (·.name = name) (onlyAddress address)) := by
  obtain ⟨hl, rfl⟩ := LinkTable.mem_of_find? h
  have hflushed : ∀ l' ∈ t.links, l'.index = l.index →
      (eraseAddresses l.addresses l').addresses = [] := by
    intro l' hl' hi
    rw [ht.eq_of_index hl' hl hi]
    exact foldl_erase_self l.addresses
  have hnone : ((t.change (·.index = l.index) (eraseAddresses l.addresses)).links.any
      fun l' => l'.index = l.index && l'.addresses.contains address) = false := by
    rw [List.any_eq_false]
    intro l' hl'
    obtain ⟨l₀, hl₀, rfl⟩ := LinkTable.mem_change.1 hl'
    by_cases hi : l₀.index = l.index
    · rw [if_pos (decide_eq_true hi), hflushed l₀ hl₀ hi]
      simp
    · rw [if_neg (by simpa using hi)]
      simp [hi]
  have hadd : Yields (addAddress l.index address)
      (t.change (·.index = l.index) (eraseAddresses l.addresses)) ()
      (t.change (·.name = l.name) (onlyAddress address)) := by
    refine yields_send ?_
    rw [LinkTable.addAddress?, hnone, if_neg Bool.false_ne_true, Option.map_some,
      LinkTable.change_change (f := eraseAddresses l.addresses)]
    · refine congrArg (fun t => some ((), t)) (LinkTable.change_congr ?_ ?_)
      · exact fun l' hl' => decide_eq_decide.2 (ht.index_iff h hl')
      · intro l' hl' hi
        rw [hflushed l' hl' (of_decide_eq_true hi)]
        rfl
    · exact fun l hl => hl
  have hlist : Yields (listAddresses l.index) t l.addresses t :=
    yields_send (by rw [ht.addresses_of_mem hl])
  exact (yields_openSocket _ t).bind ((yields_getIndex h).bind
    (hlist.bind ((yields_deleteAddresses l.index l.addresses t).bind hadd)))

theorem bold_assignAddress (name : String) (address : Cidr) : Bold (assignAddress name address) :=
  (bold_openSocket _).bind fun _ => (bold_send _ _).bind fun _ => (bold_send _ _).bind fun _ =>
    (bold_deleteAddresses _ _).bind fun _ => bold_send _ _

theorem yields_setUp (ht : t.Sound) (h : t.find? name = some l) :
    Yields (setUp name) t () (t.change (·.name = name) fun l => { l with up := true }) := by
  have hup : Yields (bringUp l.index) t ()
      (t.change (·.name = name) fun l => { l with up := true }) :=
    yields_send (congrArg (fun t => some ((), t)) (LinkTable.change_congr
      (fun l' hl' => decide_eq_decide.2 (ht.index_iff h hl')) fun _ _ _ => rfl))
  exact (yields_openSocket _ t).bind ((yields_getIndex h).bind hup)

theorem bold_setUp (name : String) : Bold (setUp name) :=
  (bold_openSocket _).bind fun _ => (bold_send _ _).bind fun _ => bold_send _ _

/-! ## Tables stay sound -/

/-- Names and numbers of links stay their own, however the operation comes out. -/
abbrev KeepsSound (x : Attempt KernelError Kernel α) : Prop :=
  Attempt.Preserves (fun k : Kernel => k.table.Sound) x

theorem keepsSound_openSocket (s : Step) : KeepsSound (openSocket s) := by
  intro k hk
  unfold openSocket
  split <;> exact hk

theorem keepsSound_send {r : Request} {effect : LinkTable → Option (α × LinkTable)}
    (h : ∀ t a t', t.Sound → effect t = some (a, t') → t'.Sound) : KeepsSound (send r effect) := by
  intro k hk
  simp only [send]
  split
  · exact hk
  · split
    · rename_i a t' heffect
      exact h k.table a t' hk heffect
    · exact hk

/-- Requests that are always answered. -/
theorem keepsSound_answer (r : Request) (answer : LinkTable → α) :
    KeepsSound (send r fun t => some (answer t, t)) :=
  keepsSound_send fun _ _ _ ht h => (Prod.mk.inj (Option.some.inj h)).2 ▸ ht

/-- Requests about a link that there may not be. -/
theorem keepsSound_lookup (r : Request) (lookup : LinkTable → Option Link) (answer : Link → α) :
    KeepsSound (send r fun t => (lookup t).map fun l => (answer l, t)) := by
  refine keepsSound_send fun t a t' ht h => ?_
  obtain ⟨l, -, h⟩ := Option.map_eq_some_iff.1 h
  exact (Prod.mk.inj h).2 ▸ ht

/-- Requests that change settings of links. -/
theorem keepsSound_change {r : Request} {select : Link → Bool} {f : Link → Link}
    (hname : ∀ l, (f l).name = l.name) (hindex : ∀ l, (f l).index = l.index) :
    KeepsSound (send r fun t => some ((), t.change select f)) :=
  keepsSound_send fun _ _ _ ht h =>
    (Prod.mk.inj (Option.some.inj h)).2 ▸ ht.change select hname hindex

theorem keepsSound_tunnelExists (name : String) : KeepsSound (tunnelExists name) := by
  refine (keepsSound_openSocket _).bind fun _ => .bind (.capture ?_) fun _ => .pure _
  exact keepsSound_answer _ _

theorem keepsSound_requireTunnel (name : String) : KeepsSound (requireTunnel name) := by
  refine (keepsSound_tunnelExists name).bind fun there => ?_
  cases there with
  | true => exact .pure ()
  | false => exact .fail _

theorem keepsSound_openTunnels : KeepsSound openTunnels :=
  (keepsSound_openSocket _).bind fun _ => keepsSound_openSocket _

theorem keepsSound_setTunnel (name : String) (s : TunnelSetting) :
    KeepsSound (setTunnel name s) := by
  refine keepsSound_send fun t a t' ht h => ?_
  obtain ⟨l, -, h⟩ := Option.map_eq_some_iff.1 h
  exact (Prod.mk.inj h).2 ▸ ht.change _ (fun _ => rfl) fun _ => rfl

theorem keepsSound_ensureTunnel (name : String) : KeepsSound (ensureTunnel name) := by
  refine (keepsSound_tunnelExists name).bind fun there => ?_
  cases there with
  | true => exact .pure ()
  | false =>
    refine (keepsSound_openSocket _).bind fun _ => keepsSound_send fun t a t' ht h => ?_
    obtain ⟨t₁, hadd, h⟩ := Option.map_eq_some_iff.1 h
    exact (Prod.mk.inj h).2 ▸ ht.add? hadd

theorem keepsSound_getIndex (name : String) : KeepsSound (getIndex name) :=
  keepsSound_lookup _ _ _

theorem keepsSound_listAddresses (index : Nat) : KeepsSound (listAddresses index) :=
  keepsSound_answer _ _

theorem keepsSound_deleteAddresses (index : Nat) (as : List Cidr) :
    KeepsSound (deleteAddresses index as) := by
  induction as with
  | nil => exact .pure ()
  | cons a as ih =>
    exact (keepsSound_change (f := eraseAddresses [a]) (fun _ => rfl) fun _ => rfl).bind fun _ => ih

theorem keepsSound_assignAddress (name : String) (address : Cidr) :
    KeepsSound (assignAddress name address) := by
  refine (keepsSound_openSocket _).bind fun _ => (keepsSound_getIndex name).bind fun index => ?_
  refine (keepsSound_listAddresses index).bind fun as => ?_
  refine (keepsSound_deleteAddresses index as).bind fun _ => keepsSound_send fun t a t' ht h => ?_
  obtain ⟨t₁, hadd, h⟩ := Option.map_eq_some_iff.1 h
  exact (Prod.mk.inj h).2 ▸ ht.addAddress? hadd

theorem keepsSound_setUp (name : String) : KeepsSound (setUp name) :=
  (keepsSound_openSocket _).bind fun _ => (keepsSound_getIndex name).bind fun _ =>
    keepsSound_change (f := fun l => { l with up := true }) (fun _ => rfl) fun _ => rfl

theorem keepsSound_read (name : String) : KeepsSound (gateway.read name) := by
  refine (keepsSound_requireTunnel name).bind fun _ => keepsSound_openTunnels.bind fun _ =>
    (keepsSound_lookup _ _ _).bind fun l => ?_
  split
  · exact .pure _
  · exact .fail _

theorem keepsSound_configure (name : String) (changes : List PeerChange) :
    KeepsSound (gateway.configure name changes) :=
  (keepsSound_requireTunnel name).bind fun _ => keepsSound_openTunnels.bind fun _ =>
    keepsSound_setTunnel name _

theorem keepsSound_provision (name : String) (settings : InterfaceSettings) :
    KeepsSound (gateway.provision name settings) :=
  (keepsSound_ensureTunnel name).bind fun _ => keepsSound_openTunnels.bind fun _ =>
    (keepsSound_setTunnel name _).bind fun _ => (keepsSound_assignAddress name _).bind fun _ =>
      keepsSound_setUp name

theorem keepsSound_remove (name : String) : KeepsSound (gateway.remove name) := by
  refine (keepsSound_tunnelExists name).bind fun there => ?_
  cases there with
  | true =>
    exact (keepsSound_openSocket _).bind fun _ => keepsSound_send fun t _ _ ht h =>
      (Prod.mk.inj (Option.some.inj h)).2 ▸ ht.delete name
  | false => exact .pure ()

/-- The kernel after a call about the interface `name`. -/
def after (name : String) (r : KernelRequest) (k : Kernel) : Kernel :=
  match r with
  | .read => (gateway.read name k).2
  | .configure changes => (gateway.configure name changes k).2
  | .provision settings => (gateway.provision name settings k).2
  | .remove => (gateway.remove name k).2

theorem sound_after (name : String) (r : KernelRequest) (h : k.table.Sound) :
    (after name r k).table.Sound := by
  cases r with
  | read => exact keepsSound_read name k h
  | configure changes => exact keepsSound_configure name changes k h
  | provision settings => exact keepsSound_provision name settings k h
  | remove => exact keepsSound_remove name k h

/-- A table that is sound stays so whatever is asked of the kernel, and whichever requests fail. -/
theorem sound_of_calls (calls : List (String × KernelRequest)) (h : k.table.Sound) :
    (calls.foldl (fun k c => after c.1 c.2 k) k).table.Sound := by
  induction calls generalizing k with
  | nil => exact h
  | cons c calls ih => exact ih (sound_after c.1 c.2 h)

end TunnelKeeper.Netlink
