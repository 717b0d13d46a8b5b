import TunnelKeeper.Proofs.Service.Edits
import TunnelKeeper.Proofs.Service.Run

/-!
# Runs on one device

A `Turn` is a step of a run in which the peer service and passes are at work and the stored device
`dev` stays as it is. Which operations there may be besides (`Fit`), and what the kernel is like all
the time (`Up`), is left to the result at hand.

What all such runs keep is `Grounded`: the stored peers are peers of `dev`, and `dev` is registered as
it is stored. An invariant of a run is proved of passes and of the drafts that calls carry out
(`preserves_call`); lookups and passes over several devices follow.
-/

namespace TunnelKeeper

/-- The operation is one of the peer service or a pass, and new peers are for the device `id`. -/
def Operation.IsAbout (id : Uuid) : Operation → Prop
  | .addPeer _ _ req => req.deviceId = id
  | .addDevice _ | .updateDevice _ _ | .removeDevice _ => False
  | _ => True

def PeerCall.operation : PeerCall → Operation
  | .add now draw req => .addPeer now draw req
  | .update now fresh id req => .updatePeer now fresh id req
  | .remove id => .removePeer id
  | .enable id => .enablePeer id
  | .disable id => .disablePeer id

/-- A store of devices that has `dev`, if anything, under its identifier. -/
def DeviceStore.Fixes {δ : Type} (store : DeviceStore δ) (dev : Device) (t : δ) : Prop :=
  ∀ d, store.get t dev.id = .ok d → d = dev

theorem MemoryDevices.fixes {dev : Device} {t : MemoryDevices}
    (h : ∀ d ∈ t.devices, d.id = dev.id → d = dev) : store.Fixes dev t := by
  intro d hd
  have hid := MemoryDevices.keyed t dev.id d hd
  simp only [store] at hd
  split at hd
  · rename_i d' hf
    obtain rfl := Except.ok.inj hd
    exact h d' (List.mem_of_find?_eq_some hf) hid
  · cases hd

/-- Every device is registered under its own identifier. -/
def World.Keyed {κ σ δ : Type} (w : World κ σ δ) : Prop :=
  ∀ id (m : ManagedDevice), w.registry[id]? = some m → m.device.id = id

namespace PeerService

open Attempt (Preserves)

variable {κ σ δ : Type} {s : PeerService κ σ δ} {peersOf : κ → String → List KernelPeer}
  {Holds : σ → List Peer → Prop} {dev : Device} {Fit : World κ σ δ → Operation → Prop}
  {Up : κ → Prop} {I : World κ σ δ → Prop} {ps ps' : List Peer} {w w' : World κ σ δ}
  {m : ManagedDevice} {c : PeerCall} {d : Draft σ} {r : Except ServiceFault Unit} {t t' : σ}

/-- One step of a run on the device `dev`. -/
inductive Turn (s : PeerService κ σ δ) (peersOf : κ → String → List KernelPeer)
    (Holds : σ → List Peer → Prop) (dev : Device) (Fit : World κ σ δ → Operation → Prop)
    (Up : κ → Prop) : World κ σ δ → World κ σ δ → Prop
  | perform {w : World κ σ δ} (op : Operation) (about : op.IsAbout dev.id) (fit : Fit w op) :
    Turn s peersOf Holds dev Fit Up w (s.perform w op)
  | meanwhile {w : World κ σ δ} (k : κ) (p : σ) (t : δ) (hk : peersOf k = peersOf w.kernel)
    (up : Up k) (hp : ∀ ps, Holds w.peers ps → Holds p ps) (fixed : s.reconciler.devices.Fixes dev t) :
    Turn s peersOf Holds dev Fit Up w ⟨k, p, t, w.registry⟩

theorem perform_operation (c : PeerCall) (w : World κ σ δ) :
    s.perform w c.operation = (s.call c w).2 := by
  cases c <;> rfl

/-- What a call gives, and what the operation makes of the world. -/
theorem call_eq (h : (s.call c w).1 = r) : s.call c w = (r, s.perform w c.operation) := by
  rw [perform_operation, ← h]

theorem syncDevice_eq {id : Uuid} {x : Except ReconcileError SyncReport}
    (h : (s.reconciler.syncDevice id w).1 = x) :
    s.reconciler.syncDevice id w = (x, s.perform w (.sync id)) := by
  rw [← h]
  rfl

/-! ## Invariants -/

/-- Looking a device up keeps what passes keep, and what is stored. -/
theorem lookup_keeps {id : Uuid} {x : Except ServiceFault ManagedDevice}
    (hsync : ∀ id, Preserves I (s.reconciler.syncDevice id)) (hw : I w)
    (h : s.device id w = (x, w')) : I w' ∧ w'.peers = w.peers := by
  have hpeers : ∀ id, Preserves (fun v : World κ σ δ => v.peers = w.peers)
      (s.reconciler.syncDevice id) :=
    fun id v hv => (Reconciler.peers_syncDevice _ id v).trans hv
  have hkept := (Reconciler.preserves_device_of hsync id).mapError ServiceFault.ofReconcile w hw
  have hsame := (Reconciler.preserves_device_of hpeers id).mapError ServiceFault.ofReconcile w rfl
  rw [show Attempt.mapError ServiceFault.ofReconcile (s.reconciler.device id) w = (x, w') from h]
    at hkept hsame
  exact ⟨hkept, hsame⟩

/-- What passes keep, and what carrying out its drafts makes of it, a call does. -/
theorem preserves_call {J : Except ServiceFault Unit → World κ σ δ → Prop}
    (hsync : ∀ id, Preserves I (s.reconciler.syncDevice id))
    (hkeyed : ∀ v, I v → v.Keyed)
    (hstay : ∀ v r, I v → J r v)
    (hcarry : ∀ {v v' : World κ σ δ} {m : ManagedDevice} {d : Draft σ}
      {r : Except ServiceFault Unit}, I v → v.registry[m.device.id]? = some m →
      s.Concerns v c m.device.id → s.Edit v.peers m c d → s.Outcome m d v r v' → J r v')
    (hw : I w) : J (s.call c w).1 (s.call c w).2 := by
  have hid : ∀ {id m w₁}, s.device id w = (.ok m, w₁) → m.device.id = id := fun h =>
    hkeyed _ (lookup_keeps hsync hw h).1 _ _ (device_ok h)
  rcases hrun : s.call c w with ⟨r, w'⟩
  have hcourse : s.Course c w r w' := course (fun _ => hid) hrun
  cases hcourse with
  | unknown => exact hstay _ _ hw
  | idle => exact hstay _ _ hw
  | unregistered task lookup => exact hstay _ _ (lookup_keeps hsync hw lookup).1
  | refused task lookup => exact hstay _ _ (lookup_keeps hsync hw lookup).1
  | carriedOut task lookup draft outcome =>
    obtain ⟨hkept, hsame⟩ := lookup_keeps hsync hw lookup
    rw [← hsame] at task
    have hm := hid lookup
    exact hcarry hkept (hm ▸ device_ok lookup) (hm ▸ concerns_of_task task) (edit task draft) outcome

/-- What every pass and every call keeps, a run keeps. -/
theorem invariant_of_run (hsync : ∀ id, Preserves I (s.reconciler.syncDevice id))
    (hcall : ∀ v c, c.operation.IsAbout dev.id → Fit v c.operation → I v → I (s.call c v).2)
    (hmeanwhile : ∀ v k p t, peersOf k = peersOf v.kernel → Up k →
      (∀ ps, Holds v.peers ps → Holds p ps) → s.reconciler.devices.Fixes dev t → I v →
      I ⟨k, p, t, v.registry⟩)
    (hrun : Relation.ReflTransGen (s.Turn peersOf Holds dev Fit Up) w w') (hw : I w) : I w' := by
  induction hrun with
  | refl => exact hw
  | tail _ hstep ih =>
    cases hstep with
    | meanwhile k p t hk up hp fixed => exact hmeanwhile _ k p t hk up hp fixed ih
    | perform op about fit =>
      cases op with
      | addPeer now draw req => exact hcall _ (.add now draw req) about fit ih
      | updatePeer now fresh id req => exact hcall _ (.update now fresh id req) about fit ih
      | removePeer id => exact hcall _ (.remove id) about fit ih
      | enablePeer id => exact hcall _ (.enable id) about fit ih
      | disablePeer id => exact hcall _ (.disable id) about fit ih
      | sync id => exact hsync id _ ih
      | syncAll => exact Reconciler.preserves_syncDevices_of hsync _ ih
      | lookup id => exact Reconciler.preserves_device_of hsync id _ ih
      | addDevice | updateDevice | removeDevice => exact about.elim

/-! ## What the kernel has

Whatever happens in a run, the peers of one interface undergo some changes and those of the others
none. -/

/-- The peers of the interface `name` underwent the changes `cs`. -/
structure Underwent (before after : String → List KernelPeer) (name : String)
    (cs : List PeerChange) : Prop where
  here : after name = PeerChange.applyAll cs (before name)
  elsewhere : ∀ other, other ≠ name → after other = before other

/-- No interface has a key twice. -/
def Once (table : String → List KernelPeer) : Prop :=
  ∀ name, ((table name).map KernelPeer.publicKey).Nodup

namespace Underwent

variable {before after : String → List KernelPeer} {name : String} {cs : List PeerChange}

theorem of_eq (h : after = before) (name : String) : Underwent before after name [] := by
  rw [h]
  exact ⟨rfl, fun _ _ => rfl⟩

theorem once (h : Underwent before after name cs) (hb : Once before) : Once after := by
  intro other
  by_cases ho : other = name
  · rw [ho, h.here]
    exact PeerChange.nodup_applyAll (hb name)
  · rw [h.elsewhere other ho]
    exact hb other

theorem mem_keys {key : Key} (h : Underwent before after name cs)
    (hcs : ∀ c ∈ cs, key ≠ c.publicKey) (other : String) :
    key ∈ (after other).map KernelPeer.publicKey ↔ key ∈ (before other).map KernelPeer.publicKey := by
  by_cases ho : other = name
  · rw [ho, h.here, PeerChange.mem_keys_applyAll hcs]
  · rw [h.elsewhere other ho]

end Underwent

theorem Looked.same_peers {g : Gateway κ} {k k' : κ} (hg : g.Faithful peersOf) (h : Looked g k k') :
    peersOf k' = peersOf k := by
  induction h with
  | refl => rfl
  | @read k' name _ ih =>
    rcases hr : g.read name k' with ⟨e | s, k₁⟩
    · exact (hg.read_error hr).trans ih
    · exact (hg.read_ok hr).2.trans ih

theorem Told.underwent {g : Gateway κ} {name : String} {change : Option PeerChange} {k k' : κ}
    (hg : g.Faithful peersOf) (h : Told g name change k r k') :
    Underwent (peersOf k) (peersOf k') name (if r = .ok () then change.toList else []) := by
  cases h with
  | nothing looked => exact .of_eq (looked.same_peers hg) name
  | applied configured looked =>
    obtain ⟨hhere, helsewhere⟩ := hg.configure_ok configured
    rw [looked.same_peers hg]
    exact ⟨hhere, helsewhere⟩
  | refused configured => exact .of_eq (hg.configure_error configured) name

/-- A pass makes changes to stored peers of its device. -/
theorem underwent_syncDevice (hg : s.reconciler.gateway.Faithful peersOf)
    (hs : s.reconciler.peers.Faithful Holds) (hps : Holds w.peers ps) (id : Uuid) :
    ∃ name cs, Underwent (peersOf w.kernel) (peersOf (s.reconciler.syncDevice id w).2.kernel) name cs ∧
      ∀ c ∈ cs, ∃ p ∈ ps, p.deviceId = id ∧ c.publicKey = p.publicKey := by
  rcases hrun : s.reconciler.syncDevice id w with ⟨e | report, w'⟩
  · obtain ⟨k, hk, rfl⟩ := Reconciler.syncDevice_error hrun
    exact ⟨"", [], .of_eq (hk.same_peers hg) "", by simp⟩
  · obtain ⟨i, device, hc⟩ := Reconciler.syncDevice_ok hrun
    obtain ⟨-, hhere, helsewhere⟩ := hc.effect hg
    refine ⟨i.device.name, i.changes, ⟨hhere, helsewhere⟩, fun c hmem => ?_⟩
    obtain ⟨q, hq, networks, -, hcase⟩ := Pass.spec_change hmem
    obtain ⟨p, hp, hdev, rfl⟩ := (hc.mem_peers_iff hs hps).1 hq
    refine ⟨p, hp, hdev, ?_⟩
    rcases hcase with ⟨-, rfl, -⟩ | ⟨-, rfl, -⟩
    · rfl
    · rfl

/-! ## What every run keeps -/

/-- What every run on the device `dev` keeps (module doc). -/
structure Grounded (s : PeerService κ σ δ) (Holds : σ → List Peer → Prop) (dev : Device)
    (ps : List Peer) (w : World κ σ δ) : Prop where
  holds : Holds w.peers ps
  device : ∀ p ∈ ps, p.deviceId = dev.id
  fixed : s.reconciler.devices.Fixes dev w.devices
  keyed : w.Keyed
  registered : ∀ m, w.registry[dev.id]? = some m →
    m.device.name = dev.name ∧ m.device.network = dev.network

namespace Grounded

theorem register (h : s.Grounded Holds dev ps w)
    (hm : m.device.id = dev.id → m.device.name = dev.name ∧ m.device.network = dev.network) :
    s.Grounded Holds dev ps { w with registry := w.registry.insert m.device.id m } := by
  refine ⟨h.holds, h.device, h.fixed, fun id m' hm' => ?_, fun m' hm' => ?_⟩
  · rcases Registry.insert_cases hm' with ⟨rfl, rfl⟩ | ⟨-, hm'⟩
    · rfl
    · exact h.keyed id m' hm'
  · rcases Registry.insert_cases hm' with ⟨hid, rfl⟩ | ⟨-, hm'⟩
    · exact hm hid
    · exact h.registered m' hm'

theorem unregister (h : s.Grounded Holds dev ps w) (id : Uuid) :
    s.Grounded Holds dev ps { w with registry := w.registry.erase id } :=
  ⟨h.holds, h.device, h.fixed, fun id' m' hm' => h.keyed id' m' (Registry.of_erase hm'),
    fun m' hm' => h.registered m' (Registry.of_erase hm')⟩

theorem withKernel (h : s.Grounded Holds dev ps w) (k : κ) :
    s.Grounded Holds dev ps { w with kernel := k } :=
  ⟨h.holds, h.device, h.fixed, h.keyed, h.registered⟩

theorem withPeers (h : s.Grounded Holds dev ps w) (ht : Holds t ps')
    (hdev : ∀ p ∈ ps', p.deviceId = dev.id) : s.Grounded Holds dev ps' { w with peers := t } :=
  ⟨ht, hdev, h.fixed, h.keyed, h.registered⟩

/-- A draft for `dev` was carried out. -/
theorem carriedOut (h : s.Grounded Holds dev ps w) (hm : w.registry[dev.id]? = some m)
    (htaken : d.taken.device = m.device) (ht : Holds t ps') (hdev : ∀ p ∈ ps', p.deviceId = dev.id)
    (k : κ) :
    s.Grounded Holds dev ps' ⟨k, t, w.devices, w.registry.insert d.taken.device.id d.taken⟩ :=
  ((h.withPeers ht hdev).withKernel k).register fun _ => by
    rw [htaken]
    exact h.registered m hm

/-- The device of a call is the one that the run is on. -/
theorem concerns (hs : s.reconciler.peers.Faithful Holds) (h : s.Grounded Holds dev ps w)
    (about : c.operation.IsAbout dev.id) {id : Uuid} (hc : s.Concerns w c id) : id = dev.id := by
  have hfound : ∀ {peer}, (∃ p, s.reconciler.peers.get w.peers peer = .ok p ∧ p.deviceId = id) →
      id = dev.id := by
    rintro peer ⟨p, hget, rfl⟩
    obtain ⟨q, hq, -, rfl⟩ := hs.get h.holds hget
    exact h.device q hq
  cases c with
  | add now draw req => exact hc.symm.trans about
  | update | remove | enable | disable => exact hfound hc

theorem syncDevice (hd : s.reconciler.devices.Keyed) (id : Uuid) :
    Preserves (s.Grounded Holds dev ps) (s.reconciler.syncDevice id) := by
  intro w h
  rcases hrun : s.reconciler.syncDevice id w with ⟨e | report, w'⟩
  · obtain ⟨k, -, rfl⟩ := Reconciler.syncDevice_error hrun
    exact (h.withKernel k).unregister id
  · obtain ⟨i, device, hc⟩ := Reconciler.syncDevice_ok hrun
    have hw := (h.withKernel w'.kernel).register (m := ⟨device, some i.pool⟩) fun hid => by
      -- of one identifier, so the device that is stored under it
      have hstored := hc.stored
      obtain rfl : id = dev.id := by
        rw [← hid, ← hd _ _ _ hstored]
        exact hc.device_id.symm
      rw [← h.fixed _ hstored]
      exact ⟨hc.device_name, hc.network⟩
    have heq : w' = { w with
        kernel := w'.kernel, registry := w.registry.insert device.id ⟨device, some i.pool⟩ } := by
      cases w'
      simp only [hc.registry.symm, hc.peers.symm, hc.devices.symm]
    rw [heq]
    exact hw

/-- A stored peer gives way to one of the same device. -/
theorem device_replaceIn (h : s.Grounded Holds dev ps w) {p q : Peer} (hp : p ∈ ps)
    (hdev : q.deviceId = p.deviceId) : ∀ r ∈ q.replaceIn ps, r.deviceId = dev.id := by
  intro r hr
  rcases Keyed.mem_replaceIn hr with ⟨hr, -⟩ | rfl
  · exact h.device r hr
  · exact hdev.trans (h.device p hp)

/-- What a draft makes of the stored peers, and whom the kernel is told of. -/
theorem rows (hs : s.reconciler.peers.Faithful Holds) (h : s.Grounded Holds dev ps w)
    (hm : m.device.id = dev.id) (hedit : s.Edit w.peers m c d) :
    ∃ ps', Stores Holds d.write ps ps' ∧ (∀ p ∈ ps', p.deviceId = dev.id) ∧
      ∀ change, d.change = some change → ∃ p ∈ ps ++ ps', change.publicKey = p.publicKey := by
  cases hedit with
  | @add now draw req address networks =>
    refine ⟨ps ++ [newPeer s draw req m address], ⟨hs.add_ok, hs.add_error⟩, fun p hp => ?_,
      fun change hc => ?_⟩
    · rcases List.mem_append.1 hp with hp | hp
      · exact h.device p hp
      · rw [List.mem_singleton.1 hp]
        exact hm
    · obtain rfl := Option.some.inj hc
      exact ⟨_, by simp, rfl⟩
  | @update now fresh id req p networks found =>
    obtain ⟨q, hq, -, rfl⟩ := hs.get h.holds found
    refine ⟨_, ⟨hs.update_ok, hs.update_error⟩, h.device_replaceIn hq rfl, fun change hc => ?_⟩
    obtain rfl := Option.some.inj (Option.ite_none_right_eq_some.1 hc).2
    exact ⟨q, List.mem_append_left _ hq, rfl⟩
  | @remove id p pool ips found =>
    obtain ⟨q, hq, -, rfl⟩ := hs.get h.holds found
    refine ⟨_, ⟨hs.remove_ok, hs.remove_error⟩, fun p hp => ?_, fun change hc => ?_⟩
    · exact h.device p (Keyed.mem_dropFrom.1 hp).1
    · obtain rfl := Option.some.inj (Option.ite_none_right_eq_some.1 hc).2
      exact ⟨q, List.mem_append_left _ hq, rfl⟩
  | @enable id p pool pool' networks newly found =>
    obtain ⟨q, hq, -, rfl⟩ := hs.get h.holds found
    refine ⟨_, ⟨hs.update_ok, hs.update_error⟩, h.device_replaceIn hq rfl, fun change hc => ?_⟩
    obtain rfl := Option.some.inj hc
    exact ⟨q, List.mem_append_left _ hq, rfl⟩
  | @disable id p found =>
    obtain ⟨q, hq, -, rfl⟩ := hs.get h.holds found
    refine ⟨_, ⟨hs.update_ok, hs.update_error⟩, h.device_replaceIn hq rfl, fun change hc => ?_⟩
    obtain rfl := Option.some.inj hc
    exact ⟨q, List.mem_append_left _ hq, rfl⟩

/-- What carrying out a draft comes to: new stored peers, or the same, and changes to the kernel's peers
of those. -/
theorem carry (hg : s.reconciler.gateway.Faithful peersOf) (hs : s.reconciler.peers.Faithful Holds)
    (h : s.Grounded Holds dev ps w) (hm : w.registry[m.device.id]? = some m)
    (hid : m.device.id = dev.id) (hedit : s.Edit w.peers m c d) (hout : s.Outcome m d w r w') :
    ∃ ps' cs, s.Grounded Holds dev ps' w' ∧
      Underwent (peersOf w.kernel) (peersOf w'.kernel) m.device.name cs ∧
      ∀ change ∈ cs, ∃ p ∈ ps ++ ps', change.publicKey = p.publicKey := by
  obtain ⟨ps', hstores, hdev, hchange⟩ := h.rows hs hid hedit
  cases hout with
  | unstored write =>
    exact ⟨ps, [], h.withPeers (hstores.error h.holds write) h.device, .of_eq rfl _, by simp⟩
  | @stored t r k write told =>
    refine ⟨ps', _, h.carriedOut (hid ▸ hm) hedit.device (hstores.ok h.holds write) hdev k,
      told.underwent hg, fun change hmem => hchange change ?_⟩
    split at hmem
    · exact Option.mem_toList.1 hmem
    · cases hmem

end Grounded

section Runs

variable (hg : s.reconciler.gateway.Faithful peersOf) (hs : s.reconciler.peers.Faithful Holds)
  (hd : s.reconciler.devices.Keyed)
include hg hs hd

theorem preserves_grounded (id : Uuid) :
    Preserves (fun v => s.Grounded Holds dev ps v ∧ Once (peersOf v.kernel))
      (s.reconciler.syncDevice id) := by
  intro v ⟨hv, ho⟩
  obtain ⟨name, cs, hunder, -⟩ := underwent_syncDevice hg hs hv.holds id
  exact ⟨Grounded.syncDevice hd id v hv, hunder.once ho⟩

/-- Every run keeps the ground, and that no interface has a key twice. -/
theorem grounded_of_run (hrun : Relation.ReflTransGen (s.Turn peersOf Holds dev Fit Up) w w')
    (hw : ∃ ps, s.Grounded Holds dev ps w) (honce : Once (peersOf w.kernel)) :
    (∃ ps, s.Grounded Holds dev ps w') ∧ Once (peersOf w'.kernel) := by
  refine invariant_of_run (I := fun v => (∃ ps, s.Grounded Holds dev ps v) ∧ Once (peersOf v.kernel))
    ?_ ?_ ?_ hrun ⟨hw, honce⟩
  · rintro id v ⟨⟨ps, hv⟩, ho⟩
    obtain ⟨hv, ho⟩ := preserves_grounded hg hs hd id v ⟨hv, ho⟩
    exact ⟨⟨ps, hv⟩, ho⟩
  · rintro v c about - ⟨⟨ps, hv⟩, ho⟩
    refine preserves_call
      (J := fun _ v => (∃ ps, s.Grounded Holds dev ps v) ∧ Once (peersOf v.kernel))
      (preserves_grounded hg hs hd) (fun v hv => hv.1.keyed) (fun v _ hv => ⟨⟨ps, hv.1⟩, hv.2⟩) ?_
      ⟨hv, ho⟩
    rintro v v' m d r ⟨hv, ho⟩ hm hconcerns hedit hout
    obtain ⟨ps', cs, hv', hunder, -⟩ :=
      hv.carry hg hs hm (hv.concerns hs about hconcerns) hedit hout
    exact ⟨⟨ps', hv'⟩, hunder.once ho⟩
  · rintro v k p t hk - hp fixed ⟨⟨ps, hv⟩, ho⟩
    refine ⟨⟨ps, hp ps hv.holds, hv.device, fixed, hv.keyed, hv.registered⟩, ?_⟩
    show Once (peersOf k)
    rwa [hk]

omit hg hs hd in
theorem grounded_initial (hrows : Holds w.peers []) (hregistry : w.registry = ∅)
    (fixed : s.reconciler.devices.Fixes dev w.devices) : s.Grounded Holds dev [] w := by
  refine ⟨hrows, by simp, fixed, fun id m hm => ?_, fun m hm => ?_⟩
  · rw [hregistry, Std.ExtTreeMap.getElem?_empty] at hm
    cases hm
  · rw [hregistry, Std.ExtTreeMap.getElem?_empty] at hm
    cases hm

end Runs

end PeerService

/-! ## Runs in memory -/

namespace Sample

open PeerService

variable {Fit : World MemoryKernel MemoryPeers MemoryDevices → Operation → Prop}
  {w w' : World MemoryKernel MemoryPeers MemoryDevices}

/-- Runs on the device of the samples. -/
abbrev Turns (Fit : World MemoryKernel MemoryPeers MemoryDevices → Operation → Prop) :
    World MemoryKernel MemoryPeers MemoryDevices → World MemoryKernel MemoryPeers MemoryDevices →
      Prop :=
  Relation.ReflTransGen
    (service.Turn MemoryKernel.peersOf MemoryPeers.Holds device Fit fun _ => True)

/-- The world, with a kernel that takes changes again. -/
def heal (w : World MemoryKernel MemoryPeers MemoryDevices) :
    World MemoryKernel MemoryPeers MemoryDevices :=
  { w with kernel := w.kernel.setFault .configure none }

theorem Turns.heal (h : Turns Fit w w')
    (hdev : ∀ d ∈ w'.devices.devices, d.id = device.id → d = device) : Turns Fit w (heal w') :=
  h.tail (.meanwhile _ _ _ rfl trivial (fun _ h => h) (MemoryDevices.fixes hdev))

theorem fixes_emptyWorld : service.reconciler.devices.Fixes device emptyWorld.devices :=
  MemoryDevices.fixes (by simp [emptyWorld, Reconciler.memoryWorld])

theorem peersOf_emptyWorld (name : String) : emptyWorld.kernel.peersOf name = [] := by
  rw [emptyWorld, Reconciler.peersOf_memoryWorld]
  split
  · rfl
  · rfl

theorem once_emptyWorld : Once emptyWorld.kernel.peersOf := by
  intro name
  rw [peersOf_emptyWorld]
  exact List.nodup_nil

theorem unused_emptyWorld (key : Key) :
    Unused MemoryKernel.peersOf MemoryPeers.Holds key emptyWorld where
  stored := by
    intro ps hps p hp
    obtain rfl := List.map_eq_nil_iff.1 hps.entries.symm
    cases hp
  kernel := by
    intro name k hk
    rw [peersOf_emptyWorld] at hk
    cases hk

theorem turns_refusingWorld (fit : Fit emptyWorld (.addPeer ⟨0, 0⟩ (draw 1) request)) :
    Turns Fit emptyWorld refusingWorld :=
  (Relation.ReflTransGen.single (.perform _ rfl fit)).tail
    (.meanwhile _ _ _ rfl trivial (fun _ h => h) fixes_emptyWorld)

end Sample

end TunnelKeeper
