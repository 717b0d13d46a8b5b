import TunnelKeeper.Proofs.Service.Passes
import TunnelKeeper.Service.Peers

/-!
# The peer service keeps the invariant

Each call of an operation has its triple; those of the operations are put together from them. An
operation that edits a pool registers the edited one, which guards the stored peers as they will be,
and stores; where storing fails the undone pool guards them as they are (`triple_persist`). What
happens to the kernel afterwards suits the stored peers, so it does not matter whether it fails.
-/

namespace TunnelKeeper.PeerService

open Attempt (Preserves Triple)

variable {κ σ δ : Type} {s : PeerService κ σ δ} {peersOf : κ → String → List KernelPeer}
  {Holds : σ → List Peer → Prop} {ps ps' : List Peer} {unused unused' : List Key} {p q : Peer}
  {m m' : ManagedDevice}

/-- The invariant holds of some stored peers. -/
def Kept (peersOf : κ → String → List KernelPeer) (Holds : σ → List Peer → Prop) (w : World κ σ δ) :
    Prop := ∃ ps, w.Orderly peersOf Holds ps []

/-! ## Calls -/

section Calls

variable (hg : s.reconciler.gateway.Faithful peersOf) (hs : s.reconciler.peers.Faithful Holds)
  (hd : s.reconciler.devices.Keyed)

include hs in
theorem triple_storedPeer (id : Uuid) :
    Triple (World.Orderly peersOf Holds ps unused) (s.storedPeer id)
      (fun p w => w.Orderly peersOf Holds ps unused ∧ ∃ q ∈ ps, q.id = id ∧ p = q.stored)
      (World.Orderly peersOf Holds ps unused) :=
  Reconciler.Triple.ask (fun _ _ hp hw => ⟨hw, hs.get hw.holds hp⟩) fun _ hw => hw

include hg hs hd in
theorem triple_registered (id : Uuid) :
    Triple (World.Orderly peersOf Holds ps unused) (s.device id)
      (fun m w => w.Orderly peersOf Holds ps unused ∧ w.registry[id]? = some m)
      (World.Orderly peersOf Holds ps unused) :=
  (Reconciler.triple_device hg hs hd id).mapError

include hg hs hd in
/-- The registered device of a peer, with a pool that keeps its addresses. -/
theorem triple_device (id : Uuid) :
    Triple (World.Orderly peersOf Holds ps unused) (s.device id)
      (fun m w => w.Orderly peersOf Holds ps unused ∧ m.device.id = id ∧ m.Guards ps)
      (World.Orderly peersOf Holds ps unused) :=
  (triple_registered hg hs hd id).post fun m _ h => ⟨h.1, h.1.registry id m h.2⟩

include hg in
theorem preserves_apply (name : String) {change : PeerChange} (hsuits : change.Suits ps) :
    Preserves (World.Orderly peersOf Holds ps unused) (s.apply name change) := by
  refine Reconciler.preserves_onKernel fun w h => ?_
  rcases hk : s.reconciler.gateway.configure name [change] w.kernel with ⟨e | u, k⟩
  · show RoutesOwn (peersOf k) ps unused
    rw [hg.configure_error hk]
    exact h.kernel
  · obtain ⟨hafter, hother⟩ := hg.configure_ok hk
    refine h.kernel.of_changes h.rows.keys h.spare (fun c hc => ?_) hafter hother
    rw [List.mem_singleton.1 hc]
    exact hsuits

include hg in
theorem preserves_overlay (now : Timestamp) (d : Device) (p : Peer) :
    Preserves (World.Orderly peersOf Holds ps unused) (s.overlay now d p) := by
  refine Preserves.bind (Preserves.bind (Preserves.capture ?_) fun _ => .pure _) fun _ => .pure _
  refine Reconciler.preserves_onKernel fun w h => ?_
  rcases hk : s.reconciler.gateway.read d.name w.kernel with ⟨e | t, k⟩
  · show RoutesOwn (peersOf k) ps unused
    rw [hg.read_error hk]
    exact h.kernel
  · show RoutesOwn (peersOf k) ps unused
    rw [(hg.read_ok hk).2]
    exact h.kernel

include hs in
/-- Storing a peer in place of one that it is like. -/
theorem triple_updatePeer (hp : p ∈ ps) (hlike : p.Like q) (hvalid : q.validate = .ok ()) :
    Triple (World.Orderly peersOf Holds ps unused)
      (Reconciler.onPeers ServiceFault.ofStore (s.reconciler.peers.update q))
      (fun _ => World.Orderly peersOf Holds (q.replaceIn ps) unused)
      (World.Orderly (κ := κ) (δ := δ) peersOf Holds ps unused) := by
  refine .intro ?_ ?_
  · intro w w' _ h hrun
    obtain ⟨t, ht, rfl⟩ := Reconciler.onPeers_eq_ok.1 hrun
    exact h.withPeers (hs.update_ok h.holds ht)
      (h.rows.replaceIn (hs.nodup h.holds) hp hlike hvalid)
      fun r hr => Peer.Orderly.like_of_mem_replaceIn hp hlike hr
  · intro w w' e h hrun
    obtain ⟨e', t, ht, rfl⟩ := Reconciler.onPeers_eq_error hrun
    exact h.withPeers (hs.update_error h.holds ht) h.rows fun r hr => ⟨r, hr, .refl r⟩

end Calls

/-! ## Registering and storing -/

/-- A world in `I` with `m` registered in it. -/
def Registered (I : World κ σ δ → Prop) (m : ManagedDevice) (w : World κ σ δ) : Prop :=
  ∃ v, I v ∧ w = { v with registry := v.registry.insert m.device.id m }

theorem triple_register {I E : World κ σ δ → Prop} (m : ManagedDevice) :
    Triple I (Reconciler.register m : Attempt ServiceFault (World κ σ δ) Unit)
      (fun _ => Registered I m) E :=
  .modify fun w hw => ⟨w, hw, rfl⟩

/-- The store changes the peers `ps` into `ps'`, or fails and leaves them. -/
structure Stores (Holds : σ → List Peer → Prop) (x : Attempt StoreError σ Unit) (ps ps' : List Peer) :
    Prop where
  ok : ∀ {t t'}, Holds t ps → x t = (.ok (), t') → Holds t' ps'
  error : ∀ {t t' e}, Holds t ps → x t = (.error e, t') → Holds t' ps

/-- Storing a change of peers for which `m` was registered, with `m'` to undo that. -/
theorem triple_persist {x : Attempt StoreError σ Unit} (hx : Stores Holds x ps ps')
    (hid : m'.device.id = m.device.id) (hrows : Peer.Orderly ps')
    (hspare : ∀ p ∈ ps', p.publicKey ∉ unused') (hsub : unused' ⊆ unused) (hm : m.Guards ps')
    (hm' : m'.Guards ps)
    (hlike : ∀ q ∈ ps', (∃ p ∈ ps, p.Like q) ∨ q.publicKey ∈ unused ∧ q.deviceId = m.device.id) :
    Triple (Registered (World.Orderly peersOf Holds ps unused) m) (persist m' x)
      (fun _ => World.Orderly (κ := κ) (δ := δ) peersOf Holds ps' unused')
      (World.Orderly peersOf Holds ps unused) := by
  have hstore : Triple (Registered (World.Orderly peersOf Holds ps unused) m)
      (Reconciler.onPeers ServiceFault.ofStore x)
      (fun _ => World.Orderly (κ := κ) (δ := δ) peersOf Holds ps' unused')
      (Registered (World.Orderly peersOf Holds ps unused) m) := by
    refine .intro ?_ ?_
    · rintro _ w' _ ⟨v, h, rfl⟩ hrun
      obtain ⟨t, ht, rfl⟩ := Reconciler.onPeers_eq_ok.1 hrun
      exact h.replace (hx.ok h.holds ht) hrows hspare hsub hm hlike
    · rintro _ w' e ⟨v, h, rfl⟩ hrun
      obtain ⟨e', t, ht, rfl⟩ := Reconciler.onPeers_eq_error hrun
      exact ⟨{ v with peers := t },
        h.withPeers (hx.error h.holds ht) h.rows fun r hr => ⟨r, hr, .refl r⟩, rfl⟩
  refine hstore.capture.bind fun outcome => ?_
  cases outcome with
  | ok _ => exact .pure fun w h => h.1 () rfl
  | error e =>
    refine Triple.bind (Q := fun _ => World.Orderly peersOf Holds ps unused) (.modify fun w h => ?_)
      fun _ => .fail fun _ h => h
    obtain ⟨v, hv, rfl⟩ := h.2 e rfl
    rw [hid, Registry.insert_insert, ← hid]
    exact hv.register hm'

theorem triple_persist_like {x : Attempt StoreError σ Unit} (hx : Stores Holds x ps ps')
    (hid : m'.device.id = m.device.id) (hrows : Peer.Orderly ps') (hm : m.Guards ps')
    (hm' : m'.Guards ps) (hlike : ∀ q ∈ ps', ∃ p ∈ ps, p.Like q) :
    Triple (Registered (World.Orderly peersOf Holds ps []) m) (persist m' x)
      (fun _ => World.Orderly (κ := κ) (δ := δ) peersOf Holds ps' [])
      (World.Orderly peersOf Holds ps []) :=
  triple_persist hx hid hrows (fun _ _ => List.not_mem_nil) (List.Subset.refl _) hm hm'
    fun q hq => .inl (hlike q hq)

/-! ## Operations -/

theorem Kept.intro {w : World κ σ δ} (h : w.Orderly peersOf Holds ps []) : Kept peersOf Holds w :=
  ⟨ps, h⟩

theorem Kept.triple {α : Type} {x : Attempt ServiceFault (World κ σ δ) α}
    (h : Preserves (World.Orderly peersOf Holds ps []) x) :
    Triple (World.Orderly peersOf Holds ps []) x (fun _ => Kept peersOf Holds)
      (Kept peersOf Holds) :=
  h.triple.weaken (fun _ h => h) (fun _ _ => Kept.intro) fun _ => Kept.intro

theorem Kept.preserves {α : Type} {x : Attempt ServiceFault (World κ σ δ) α}
    (h : ∀ ps, Triple (World.Orderly peersOf Holds ps []) x (fun _ => Kept peersOf Holds)
      (Kept peersOf Holds)) : Preserves (Kept peersOf Holds) x :=
  Triple.preserves fun w ⟨ps, hw⟩ => h ps w hw

/-- A change that routes to a stored peer what it declares. -/
theorem suits_of_networks {c : PeerChange} (hp : p ∈ ps) (hkey : c.publicKey = p.publicKey)
    (hreplace : c.replaceAllowedIps = true) (hnet : p.allowedNetworks = .ok c.allowedIps) :
    c.Suits ps :=
  .inr ⟨p, hp, hkey, hreplace, fun _ ha => Except.ok.inj (hnet.symm.trans ha)⟩

section Operations

variable (hg : s.reconciler.gateway.Faithful peersOf) (hs : s.reconciler.peers.Faithful Holds)
  (hd : s.reconciler.devices.Keyed)
include hg hs hd

theorem triple_update (now : Timestamp) (fresh : Key) (id : Uuid) (req : UpdatePeer) :
    Triple (World.Orderly peersOf Holds ps []) (s.update now fresh id req)
      (fun _ => Kept peersOf Holds) (Kept peersOf Holds) := by
  refine (triple_storedPeer hs id).bindTo (fun _ => Kept.intro) fun before => .of_and ?_
  rintro ⟨q, hq, -, rfl⟩
  refine (triple_device hg hs hd _).bindTo (fun _ => Kept.intro) fun m => ?_
  refine .pre (.bindExcept (fun _ => Kept.intro) fun _ hvalid => ?_) fun _ h => h.1
  refine .bindExcept (fun _ => Kept.intro) fun networks hnet => ?_
  refine Triple.bindTo (triple_updatePeer hs hq ⟨rfl, rfl, rfl, rfl⟩ hvalid) (fun _ => Kept.intro)
    fun _ => ?_
  simp only
  split
  · refine Kept.triple ((preserves_apply hg _ ?_).bind fun _ => preserves_overlay hg now _ _)
    exact suits_of_networks (Keyed.mem_replaceIn_self hq rfl) rfl rfl hnet
  · exact Kept.triple (preserves_overlay hg now _ _)

theorem triple_disableSteps (hp : p ∈ ps) :
    Triple (World.Orderly peersOf Holds ps []) (s.disableSteps p.stored) (fun _ => Kept peersOf Holds)
      (Kept peersOf Holds) := by
  refine (triple_device hg hs hd _).bindTo (fun _ => Kept.intro) fun m => ?_
  refine .pre (.bindExcept (fun _ => Kept.intro) fun _ _ => ?_) fun _ h => h.1
  refine .fact (fun _ h => h.rows.valid p hp) fun hvalid => ?_
  refine Triple.bindTo (triple_updatePeer hs hp ⟨rfl, rfl, rfl, rfl⟩ hvalid) (fun _ => Kept.intro)
    fun _ => ?_
  exact Kept.triple (preserves_apply hg _ (.inl rfl))

theorem triple_enableSteps (hp : p ∈ ps) :
    Triple (World.Orderly peersOf Holds ps []) (s.enableSteps p.stored) (fun _ => Kept peersOf Holds)
      (Kept peersOf Holds) := by
  refine (triple_device hg hs hd _).bindTo (fun _ => Kept.intro) fun m => .of_and ?_
  rintro ⟨hid, pool, block, hpool, hblock, hkeeps⟩
  refine .bindExcept (fun _ => Kept.intro) fun pool' hpool' => ?_
  obtain rfl : pool' = pool := by
    rw [ManagedDevice.getPool, hpool] at hpool'
    exact (Except.ok.inj hpool').symm
  refine .bindExcept (fun _ => Kept.intro) fun networks hnet => ?_
  rcases hclaim : pool'.claim (networks.map Cidr.ip) p.id with ⟨outcome, claimed⟩
  have hclaimed : claimed.Extends pool' := by
    have := pool'.extends_claim (networks.map Cidr.ip) p.id
    rwa [hclaim] at this
  simp only [Peer.id_stored, hclaim]
  refine .bindExcept (fun _ => Kept.intro) fun newly hnewly => ?_
  rw [hnewly] at hclaim
  refine .fact (fun _ h => (⟨h.rows, hs.nodup h.holds⟩ : Peer.Orderly ps ∧ (ps.map Peer.id).Nodup)) ?_
  rintro ⟨hrows, hids⟩
  refine Triple.bind (triple_register _) fun _ => ?_
  have hlike : p.Like { p.stored with isEnabled := true } := ⟨rfl, rfl, rfl, rfl⟩
  have hreplaced := fun q hq => Peer.Orderly.like_of_mem_replaceIn (r := q) hp hlike hq
  refine Triple.bindTo (triple_persist_like ⟨hs.update_ok, hs.update_error⟩ rfl
    (hrows.replaceIn hids hp hlike (hrows.valid p hp)) ?_ ?_ hreplaced) (fun _ => Kept.intro)
    fun _ => Kept.triple (preserves_apply hg _ ?_)
  · exact ⟨claimed, block, rfl, hblock,
      (hkeeps.of_extends hclaimed).of_like fun q hq _ => hreplaced q hq⟩
  · rw [AddressPool.undo_claim hclaim]
    exact ⟨pool', block, rfl, hblock, hkeeps⟩
  · exact suits_of_networks (Keyed.mem_replaceIn_self hp rfl) rfl rfl hnet

theorem preserves_update (now : Timestamp) (fresh : Key) (id : Uuid) (req : UpdatePeer) :
    Preserves (Kept peersOf Holds) (s.update now fresh id req) :=
  Kept.preserves fun _ => triple_update hg hs hd now fresh id req

theorem preserves_enable (id : Uuid) : Preserves (Kept peersOf Holds) (s.enable id) := by
  refine Kept.preserves fun ps => ?_
  refine (triple_storedPeer hs id).bindTo (fun _ => Kept.intro) fun p => .of_and ?_
  rintro ⟨q, hq, -, rfl⟩
  split
  · exact Kept.triple (.pure _)
  · exact triple_enableSteps hg hs hd hq

theorem preserves_disable (id : Uuid) : Preserves (Kept peersOf Holds) (s.disable id) := by
  refine Kept.preserves fun ps => ?_
  refine (triple_storedPeer hs id).bindTo (fun _ => Kept.intro) fun p => .of_and ?_
  rintro ⟨q, hq, -, rfl⟩
  split
  · exact triple_disableSteps hg hs hd hq
  · exact Kept.triple (.pure _)

theorem preserves_remove (id : Uuid) : Preserves (Kept peersOf Holds) (s.remove id) := by
  refine Kept.preserves fun ps => ?_
  refine (triple_storedPeer hs id).bindTo (fun _ => Kept.intro) fun p => .of_and ?_
  rintro ⟨p, hp, rfl, rfl⟩
  refine (triple_device hg hs hd _).bindTo (fun _ => Kept.intro) fun m => .of_and ?_
  rintro ⟨hid, pool, block, hpool, hblock, hkeeps⟩
  refine .fact (fun _ h => h.rows) fun hrows => ?_
  obtain ⟨a, ha⟩ := hrows.single p hp
  refine .bindExcept (fun _ => Kept.intro) fun pool' hpool' => ?_
  obtain rfl : pool' = pool := by
    rw [ManagedDevice.getPool, hpool] at hpool'
    exact (Except.ok.inj hpool').symm
  refine .bindExcept (fun _ => Kept.intro) fun ips hips => ?_
  obtain rfl : [a] = ips := Except.ok.inj (ha.reservedIps.symm.trans hips)
  have hreleased := hkeeps.release hrows hp hid.symm ha
  have hundone := (pool'.undo_release p.id [a]).symm ▸ hkeeps
  refine Triple.bind (triple_register _) fun _ => ?_
  refine Triple.bindTo (triple_persist_like ⟨hs.remove_ok, hs.remove_error⟩ rfl (hrows.dropFrom p.id)
    ⟨_, block, rfl, hblock, hreleased⟩ ⟨_, block, rfl, hblock, hundone⟩ ?_) (fun _ => Kept.intro)
    fun _ => ?_
  · exact fun q hq => ⟨q, (Keyed.mem_dropFrom.1 hq).1, .refl q⟩
  · split
    · exact Kept.triple (preserves_apply hg _ (.inl rfl))
    · exact Kept.triple (.pure _)

end Operations

/-! ## Adding a peer -/

/-- Adding a peer from `w` gives it the one address that `p` declares. The address was allocated from
a registered device, and is neither end of the device's block nor its own address. -/
def Handed (s : PeerService κ σ δ) (w : World κ σ δ) (draw : PeerDraw) (req : AddPeer) (p : Peer) :
    Prop :=
  ∃ m w₁ block ip, s.device req.deviceId w = (.ok m, w₁) ∧ w₁.registry[req.deviceId]? = some m ∧
    m.device.network = .ok block ∧ ¬ block.isOwn ip ∧ p.id = draw.id ∧ p.deviceId = req.deviceId ∧
    p.publicKey = draw.privateKey.publicKey ∧ p.allowedIps = [(Cidr.host ip).text]

theorem spec_allocate {holder : Holder} {c : Cidr} {pool : AddressPool} {block : Cidr}
    (hpool : m.pool = some pool) (hblock : m.device.network = .ok block)
    (h : m.allocate holder = (.ok c, m')) :
    ∃ pool', pool.allocateFor block holder = (.ok c, pool') ∧ m' = { m with pool := some pool' } := by
  unfold ManagedDevice.allocate at h
  rcases halloc : pool.allocateFor block holder with ⟨outcome, pool'⟩
  simp only [hblock, ManagedDevice.getPool, hpool, halloc] at h
  obtain ⟨h1, rfl⟩ := Prod.mk.inj h
  cases outcome with
  | error e => cases h1
  | ok c' => exact ⟨pool', by rw [Except.ok.inj h1], rfl⟩

/-- The peer that is stored for a request, on a device that gave it the address `c`. -/
def newPeer (s : PeerService κ σ δ) (draw : PeerDraw) (req : AddPeer) (m : ManagedDevice) (c : Cidr) :
    Peer :=
  { (Peer.ofRequest draw m.device.id req).withDefaults s.defaults with allowedIps := [c.text] }

/-- What is left of the invariant where no peer was added, and what it is where `Handed` says how. -/
def Added (peersOf : κ → String → List KernelPeer) (Holds : σ → List Peer → Prop) (ps : List Peer)
    (handed : Peer → Prop) (w : World κ σ δ) : Prop :=
  w.Orderly peersOf Holds ps [] ∨ ∃ p, handed p ∧ w.Orderly peersOf Holds (ps ++ [p]) []

section Add

variable (hg : s.reconciler.gateway.Faithful peersOf) (hs : s.reconciler.peers.Faithful Holds)
  (hd : s.reconciler.devices.Keyed)
include hg hs hd

omit hd in
/-- Storing and installing a new peer with an unused key, with its address reserved in `taken`. -/
theorem triple_install {taken undone : ManagedDevice} {a : IpAddress} {change : PeerChange}
    (now : Timestamp) (d : Device) (hvalid : q.validate = .ok ()) (ha : q.Declares a)
    (hfree : ∀ p ∈ ps, p.deviceId = q.deviceId → ¬ p.Declares a) (htaken : taken.Guards (ps ++ [q]))
    (hundone : undone.Guards ps) (hdev : q.deviceId = taken.device.id)
    (hid : undone.device.id = taken.device.id) (hsuits : change.Suits (ps ++ [q])) :
    Triple (World.Orderly peersOf Holds ps [q.publicKey])
      (do
        Reconciler.register taken
        persist undone (s.reconciler.peers.add q)
        s.apply d.name change
        s.overlay now d q)
      (fun _ => World.Orderly peersOf Holds (ps ++ [q]) [])
      (fun w => w.Orderly peersOf Holds ps [q.publicKey] ∨
        w.Orderly peersOf Holds (ps ++ [q]) []) := by
  refine .fact (fun _ h => (⟨h.rows, h.spare⟩ :
    Peer.Orderly ps ∧ ∀ p ∈ ps, p.publicKey ∉ [q.publicKey])) ?_
  rintro ⟨hrows, hspare⟩
  have hkey : q.publicKey ∉ ps.map Peer.publicKey := by
    intro hmem
    obtain ⟨p, hp, hpk⟩ := List.mem_map.1 hmem
    exact hspare p hp (List.mem_singleton.2 hpk)
  have hlike : ∀ r ∈ ps ++ [q], (∃ p ∈ ps, p.Like r) ∨
      r.publicKey ∈ [q.publicKey] ∧ r.deviceId = taken.device.id := by
    intro r hr
    rcases List.mem_append.1 hr with hr | hr
    · exact .inl ⟨r, hr, .refl r⟩
    · rw [List.mem_singleton.1 hr]
      exact .inr ⟨List.mem_singleton_self _, hdev⟩
  refine Triple.bind (triple_register _) fun _ => ?_
  refine (triple_persist ⟨hs.add_ok, hs.add_error⟩ hid (hrows.append hvalid ha hkey hfree)
    (fun _ _ => List.not_mem_nil) (List.nil_subset _) htaken hundone hlike).bindTo (fun _ => .inl)
    fun _ => ?_
  exact ((preserves_apply hg _ hsuits).bind fun _ => preserves_overlay hg now d q).triple.weaken
    (fun _ h => h) (fun _ _ h => h) fun _ => .inr

/-- The registered device to add a peer to, and how it was looked up. -/
theorem triple_chosen {w : World κ σ δ} (h : w.Orderly peersOf Holds ps unused) (id : Uuid) :
    Triple (fun v => v = w) (s.device id)
      (fun m v => v.Orderly peersOf Holds ps unused ∧ m.device.id = id ∧ m.Guards ps ∧
        ∃ w₁, s.device id w = (.ok m, w₁) ∧ w₁.registry[id]? = some m)
      (World.Orderly peersOf Holds ps unused) := by
  have htriple : Triple (World.Orderly peersOf Holds ps unused) (s.device id) _ _ :=
    triple_registered hg hs hd id
  refine .intro ?_ ?_
  · rintro _ w₁ m rfl hrun
    obtain ⟨horderly, hm⟩ := htriple.ok h hrun
    obtain ⟨hid, hguards⟩ := horderly.registry _ m hm
    exact ⟨horderly, hid, hguards, w₁, hrun, hm⟩
  · rintro _ w₁ e rfl hrun
    exact htriple.error h hrun

theorem triple_add {w : World κ σ δ} (now : Timestamp) (draw : PeerDraw) (req : AddPeer)
    (h : w.Orderly peersOf Holds ps [draw.privateKey.publicKey]) :
    Triple (fun v => v = w) (s.add now draw req)
      (fun _ => Added peersOf Holds ps (Handed s w draw req))
      (Added peersOf Holds ps (Handed s w draw req)) := by
  have hnone : ∀ v : World κ σ δ, v.Orderly peersOf Holds ps [draw.privateKey.publicKey] →
      Added peersOf Holds ps (Handed s w draw req) v := fun v hv => .inl hv.forget
  refine (triple_chosen hg hs hd h req.deviceId).bindTo hnone fun m => .of_and ?_
  rintro ⟨hid, ⟨pool, block, hpool, hblock, hkeeps⟩, w₁, hrun, hregistered⟩
  refine .bindExcept hnone fun _ hvalid => ?_
  rcases halloc : m.allocate (.peer draw.id) with ⟨outcome, taken⟩
  have hdrawn : ((Peer.ofRequest draw m.device.id req).withDefaults s.defaults).id = draw.id := rfl
  simp only [hdrawn, halloc]
  refine .bindExcept hnone fun c hc => ?_
  rw [hc] at halloc
  obtain ⟨pool', hpool', rfl⟩ := spec_allocate hpool hblock halloc
  obtain ⟨ip, rfl, rfl, -, -, hfree⟩ := AddressPool.spec_allocateFor hpool'
  have hdeclares : (newPeer s draw req m (.host ip)).Declares ip := Peer.declares_of_text rfl
  have hhanded : Handed s w draw req (newPeer s draw req m (.host ip)) :=
    ⟨m, w₁, block, ip, hrun, hregistered, hblock, hkeeps.not_own hfree, rfl, hid, rfl, rfl⟩
  refine .bindExcept hnone fun change hchange => ?_
  have hsuits : change.Suits (ps ++ [newPeer s draw req m (.host ip)]) := by
    have hchange : (newPeer s draw req m (.host ip)).allowedNetworks.map
      (newPeer s draw req m (.host ip)).changeFor = .ok change := hchange
    rw [hdeclares] at hchange
    rw [← Except.ok.inj hchange]
    exact suits_of_networks (List.mem_append_right _ List.mem_cons_self) rfl rfl hdeclares
  have htaken : ({ m with pool := some (pool.put ip (.peer draw.id)) } : ManagedDevice).Guards
      (ps ++ [newPeer s draw req m (.host ip)]) :=
    ⟨_, block, rfl, hblock, hkeeps.put hfree hdeclares _⟩
  have hundone : ({ m with
      pool := some ((pool.put ip (.peer draw.id)).releaseAll [ip]) } : ManagedDevice).Guards ps :=
    ⟨_, block, rfl, hblock, (AddressPool.undo_put hfree _).symm ▸ hkeeps⟩
  have hinstall := triple_install (q := newPeer s draw req m (.host ip)) hg hs now m.device hvalid
    hdeclares (hkeeps.not_declared hfree) htaken hundone rfl rfl hsuits
  refine hinstall.weaken (fun _ h => h) (fun _ v hv => .inr ⟨_, hhanded, hv⟩) fun v hv => ?_
  rcases hv with hv | hv
  · exact .inl hv.forget
  · exact .inr ⟨_, hhanded, hv⟩

/-- However adding a peer comes out, the invariant is kept. -/
theorem added_add {w : World κ σ δ} (now : Timestamp) (draw : PeerDraw) (req : AddPeer)
    (h : w.Orderly peersOf Holds ps [draw.privateKey.publicKey]) :
    Added peersOf Holds ps (Handed s w draw req) (s.add now draw req w).2 := by
  have hadd := triple_add hg hs hd now draw req h w rfl
  cases hout : (s.add now draw req w).1 with
  | ok p => exact hadd.1 p hout
  | error e => exact hadd.2 e hout

end Add

end TunnelKeeper.PeerService
