import TunnelKeeper.Proofs.Service.Atomic
import TunnelKeeper.Proofs.Service.Turns

/-!
# Whether a removed peer loses its access

Removing a peer takes it out of the kernel in the call itself, if it is enabled and the kernel does not
refuse. Nothing later makes up for it where that was not so: a pass takes out the peers of disabled
records, and the removed peer has no record any more. So the key of a removed peer is in the kernel
for good exactly if the kernel had it when the call found the device, and the peer was disabled or the
kernel refused (`removed_key_iff`).
-/

namespace TunnelKeeper

namespace PeerService

open Attempt (Preserves)

variable {κ σ δ : Type} {s : PeerService κ σ δ} {peersOf : κ → String → List KernelPeer}
  {Holds : σ → List Peer → Prop} {dev : Device} {Fit : World κ σ δ → Operation → Prop}
  {Up : κ → Prop} {ps : List Peer} {w w' w₀ w₁ w₂ : World κ σ δ} {key : Key} {p : Peer}
  {r : Except ServiceFault Unit} {b : Prop}

/-- The interface `name` has a peer with the key. -/
def HasKey (peersOf : κ → String → List KernelPeer) (name : String) (key : Key) (w : World κ σ δ) :
    Prop := key ∈ (peersOf w.kernel name).map KernelPeer.publicKey

/-- No stored peer has the key. -/
def Lacks (Holds : σ → List Peer → Prop) (key : Key) (w : World κ σ δ) : Prop :=
  ∀ ps, Holds w.peers ps → ∀ p ∈ ps, p.publicKey ≠ key

/-! ## A key without a record -/

/-- No stored peer has the key, and the kernel has it if `b`. -/
structure Stray (s : PeerService κ σ δ) (peersOf : κ → String → List KernelPeer)
    (Holds : σ → List Peer → Prop) (dev : Device) (key : Key) (b : Prop) (ps : List Peer)
    (w : World κ σ δ) : Prop where
  ground : s.Grounded Holds dev ps w
  lacks : ∀ p ∈ ps, p.publicKey ≠ key
  kernel : HasKey peersOf dev.name key w ↔ b

section Runs

variable (hg : s.reconciler.gateway.Faithful peersOf) (hs : s.reconciler.peers.Faithful Holds)
  (hd : s.reconciler.devices.Keyed)
include hg hs hd

theorem preserves_stray (id : Uuid) :
    Preserves (s.Stray peersOf Holds dev key b ps) (s.reconciler.syncDevice id) := by
  intro v hv
  obtain ⟨name, cs, hunder, hcs⟩ := underwent_syncDevice hg hs hv.ground.holds id
  refine ⟨Grounded.syncDevice hd id v hv.ground, hv.lacks,
    (hunder.mem_keys (fun c hc => ?_) _).trans hv.kernel⟩
  obtain ⟨p, hp, -, hkey⟩ := hcs c hc
  rw [hkey]
  exact (hv.lacks p hp).symm

omit hd in
theorem Stray.carry {m : ManagedDevice} {c : PeerCall} {d : Draft σ}
    (hw : s.Stray peersOf Holds dev key b ps w) (hm : w.registry[m.device.id]? = some m)
    (hid : m.device.id = dev.id) (hedit : s.Edit w.peers m c d) (hout : s.Outcome m d w r w')
    (hlacks : Lacks Holds key w') : ∃ ps', s.Stray peersOf Holds dev key b ps' w' := by
  obtain ⟨ps', cs, hw', hunder, hcs⟩ := hw.ground.carry hg hs hm hid hedit hout
  have hlacks' := hlacks ps' hw'.holds
  refine ⟨ps', hw', hlacks', (hunder.mem_keys (fun c hc => ?_) _).trans hw.kernel⟩
  obtain ⟨p, hp, hkey⟩ := hcs c hc
  rw [hkey]
  rcases List.mem_append.1 hp with hp | hp
  · exact (hw.lacks p hp).symm
  · exact (hlacks' p hp).symm

/-- A key that no stored peer has stays in the kernel or out of it. -/
theorem stray_of_run (hw : ∃ ps, s.Stray peersOf Holds dev key b ps w)
    (hrun : Relation.ReflTransGen
      (s.Turn peersOf Holds dev (fun v op => Lacks Holds key (s.perform v op)) Up) w w') :
    ∃ ps, s.Stray peersOf Holds dev key b ps w' := by
  refine invariant_of_run (I := fun v => ∃ ps, s.Stray peersOf Holds dev key b ps v) ?_ ?_ ?_ hrun hw
  · rintro id v ⟨ps, hv⟩
    exact ⟨ps, preserves_stray hg hs hd id v hv⟩
  · rintro v c about fit ⟨ps, hv⟩
    rw [perform_operation] at fit
    refine preserves_call
      (J := fun _ u => Lacks Holds key u → ∃ ps, s.Stray peersOf Holds dev key b ps u)
      (preserves_stray hg hs hd) (fun u hu => hu.ground.keyed) (fun u _ hu _ => ⟨ps, hu⟩) ?_ hv fit
    intro u u' m d r hu hm hconcerns hedit hout
    exact hu.carry hg hs hm (hu.ground.concerns hs about hconcerns) hedit hout
  · rintro v k q t hk - hq fixed ⟨ps, hv⟩
    refine ⟨ps, ⟨hq ps hv.ground.holds, hv.ground.device, fixed, hv.ground.keyed,
      hv.ground.registered⟩, hv.lacks, ?_⟩
    rw [← hv.kernel, HasKey, HasKey]
    simp only [hk]

end Runs

/-! ## The call -/

/-- The kernel loses a key that it is told to take out, unless it refuses. -/
theorem Told.removal {g : Gateway κ} {name : String} {k k' : κ} {enabled : Bool}
    (hg : g.Faithful peersOf) (honce : ((peersOf k name).map KernelPeer.publicKey).Nodup)
    (h : Told g name (if enabled then some (.removal key) else none) k r k') :
    key ∈ (peersOf k' name).map KernelPeer.publicKey ↔
      key ∈ (peersOf k name).map KernelPeer.publicKey ∧ (enabled = false ∨ r ≠ .ok ()) := by
  have hhere := (h.underwent hg).here
  by_cases hr : r = .ok ()
  · cases enabled with
    | false =>
      rw [hhere, if_pos hr]
      simp
    | true =>
      rw [hhere, if_pos hr]
      have hgone : key ∉ (PeerChange.apply (.removal key) (peersOf k name)).map KernelPeer.publicKey := by
        rw [PeerChange.apply_of_remove rfl honce, List.mem_map]
        rintro ⟨q, hq, hkey⟩
        simpa [hkey, PeerChange.removal] using (List.mem_filter.1 hq).2
      simpa [hr] using hgone
  · rw [hhere, if_neg hr]
    simp [hr]

section Remove

variable (hg : s.reconciler.gateway.Faithful peersOf) (hs : s.reconciler.peers.Faithful Holds)
  (hd : s.reconciler.devices.Keyed)
include hg hs hd

/-- After a removal that dropped the row, the kernel has the key if it had it when the device was found,
and the peer was disabled or the kernel refused. -/
theorem stray_of_remove (hw : s.Grounded Holds dev ps w) (honce : Once (peersOf w.kernel))
    (hp : p ∈ ps) (honly : ∀ q ∈ ps, q.publicKey = p.publicKey → q.id = p.id)
    (hrun : s.remove p.id w = (r, w₁))
    (hdropped : ∀ e, r = .error e → e.isKernelApplyFailure = true) :
    ∃ ps', s.Stray peersOf Holds dev p.publicKey
      (HasKey peersOf dev.name p.publicKey (s.device p.deviceId w).2 ∧
        (p.isEnabled = false ∨ r ≠ .ok ())) ps' w₁ := by
  have hsync : ∀ id, Preserves (fun v => s.Grounded Holds dev ps v ∧ Once (peersOf v.kernel))
      (s.reconciler.syncDevice id) := preserves_grounded hg hs hd
  have hkept : ∀ {id x v}, s.device id w = (x, v) →
      (s.Grounded Holds dev ps v ∧ Once (peersOf v.kernel)) ∧ v.peers = w.peers :=
    fun h => lookup_keeps hsync ⟨hw, honce⟩ h
  have hcourse : s.Course (.remove p.id) w r w₁ :=
    course (fun _ hlookup => (hkept hlookup).1.1.keyed _ _ (device_ok hlookup)) hrun
  obtain ⟨htask, -⟩ | ⟨t, m, d, v, u, k, htask, hlookup, hdraft, write, told, rfl⟩ :=
    hcourse.stored_of hdropped
  · obtain ⟨q, -, hq⟩ := task_stored_eq_ok htask
    cases hq
  · obtain ⟨⟨hv, honce'⟩, hsame⟩ := hkept hlookup
    cases assigned htask with
    | remove found =>
      obtain ⟨p', hp', hid, rfl⟩ := hs.get hw.holds found
      obtain rfl : p' = p := List.inj_on_of_nodup_map (hs.nodup hw.holds) hp' hp hid
      have hlookup : s.device p'.deviceId w = (.ok m, v) := hlookup
      have hm : v.registry[dev.id]? = some m := hw.device p' hp ▸ device_ok hlookup
      rw [hlookup]
      rw [← hsame] at found
      cases edit_remove found hdraft with
      | remove found' =>
        obtain rfl := Except.ok.inj (found.symm.trans found')
        refine ⟨Peer.dropFrom ps p'.id, ?_, fun q hq hkey => ?_, ?_⟩
        · exact hv.carriedOut hm rfl (hs.remove_ok hv.holds write)
            (fun q hq => hv.device q (Keyed.mem_dropFrom.1 hq).1) k
        · obtain ⟨hq, hne⟩ := Keyed.mem_dropFrom.1 hq
          exact hne (honly q hq hkey)
        · rw [HasKey, HasKey, ← (hv.registered m hm).1]
          exact told.removal hg (honce' m.device.name)

/-- A run drops the row of a peer that alone has its key, and goes on without that key. Then the kernel
has the key exactly if it had it when the call found the device, and the peer was disabled or the
kernel refused to take it out. -/
theorem removed_key_iff (hrows : Holds w₀.peers []) (hregistry : w₀.registry = ∅)
    (hfixed : s.reconciler.devices.Fixes dev w₀.devices) (honce : Once (peersOf w₀.kernel))
    (hrun : Relation.ReflTransGen (s.Turn peersOf Holds dev (fun _ _ => True) fun _ => True) w₀ w) :
    ∃ ps, Holds w.peers ps ∧ ∀ p ∈ ps, (∀ q ∈ ps, q.publicKey = p.publicKey → q.id = p.id) →
      ∀ r w₁, s.remove p.id w = (r, w₁) → (∀ e, r = .error e → e.isKernelApplyFailure = true) →
      ∀ w₂, Relation.ReflTransGen (s.Turn peersOf Holds dev
          (fun v op => Lacks Holds p.publicKey (s.perform v op)) fun _ => True) w₁ w₂ →
        (HasKey peersOf dev.name p.publicKey w₂ ↔
          HasKey peersOf dev.name p.publicKey (s.device p.deviceId w).2 ∧
            (p.isEnabled = false ∨ r ≠ .ok ())) := by
  obtain ⟨⟨ps, hw⟩, honce⟩ :=
    grounded_of_run hg hs hd hrun ⟨[], grounded_initial hrows hregistry hfixed⟩ honce
  refine ⟨ps, hw.holds, fun p hp honly r w₁ hremove hdropped w₂ hrun₂ => ?_⟩
  have hstray := stray_of_remove hg hs hd hw honce hp honly hremove hdropped
  obtain ⟨_, hlast⟩ := stray_of_run hg hs hd hstray hrun₂
  exact hlast.kernel

end Remove

end PeerService

/-! ## The kernel refuses a removal -/

namespace Sample

open PeerService

/-- The first peer is removed, but the kernel refuses that. -/
def removedWorld : World MemoryKernel MemoryPeers MemoryDevices :=
  service.perform refusingWorld (.removePeer (uuid 1))

/-- After a pass that the kernel would let take the peer out. -/
def strayWorld : World MemoryKernel MemoryPeers MemoryDevices :=
  service.perform (heal removedWorld) (.sync device.id)

/-- The kernel refuses the removal, and the pass after it succeeds and reports nothing. -/
theorem computed_strayWorld :
    refusingWorld.peers.entries.map (fun e => (e.1, e.2.deviceId, e.2.publicKey))
        = [(uuid 1, device.id.text, (draw 1).privateKey.publicKey.text)] ∧
      (service.remove (uuid 1) refusingWorld).1 = .error (.kernelApplyFailed (.io "refused")) ∧
      (draw 1).privateKey.publicKey ∈ ((service.device device.id refusingWorld).2.kernel.peersOf
        device.name).map KernelPeer.publicKey ∧
      (∀ d ∈ removedWorld.devices.devices, d.id = device.id → d = device) ∧
      (service.reconciler.syncDevice device.id (heal removedWorld)).1
        = .ok ⟨[device.name], [], [], [], [], []⟩ ∧
      strayWorld.peers.entries = [] ∧
      (draw 1).privateKey.publicKey ∈ (strayWorld.kernel.peersOf device.name).map
        KernelPeer.publicKey := by
  decide +kernel

theorem removed_key_iff_refused :
    ∃ ps p, MemoryPeers.Holds refusingWorld.peers ps ∧ p ∈ ps ∧
      service.remove p.id refusingWorld
        = (.error (.kernelApplyFailed (.io "refused")), removedWorld) ∧
      HasKey MemoryKernel.peersOf device.name p.publicKey strayWorld := by
  obtain ⟨ps, hps, hall⟩ := removed_key_iff MemoryKernel.faithful MemoryPeers.faithful
    MemoryDevices.keyed (Reconciler.holds_memoryWorld List.nodup_nil) rfl fixes_emptyWorld
    once_emptyWorld (turns_refusingWorld trivial)
  obtain ⟨hrows, hrefused, hfound, hdevices, -, hnone, -⟩ := computed_strayWorld
  rw [hps.entries, List.map_map] at hrows
  obtain ⟨p, rfl, hp⟩ := List.map_eq_singleton_iff.1 hrows
  simp only [Function.comp_apply, Prod.mk.injEq] at hp
  obtain ⟨hid, hdevice, hpublic⟩ := hp
  have hrun : service.remove p.id refusingWorld
      = (.error (.kernelApplyFailed (.io "refused")), removedWorld) := by
    rw [hid]
    exact call_eq (c := .remove (uuid 1)) hrefused
  refine ⟨[p], p, hps, by simp, hrun, ?_⟩
  have hlacks : Lacks MemoryPeers.Holds p.publicKey strayWorld := by
    intro qs hqs q hq
    rw [hqs.entries, List.map_eq_nil_iff] at hnone
    simp [hnone] at hq
  have hcontinued : Turns (fun v op => Lacks MemoryPeers.Holds p.publicKey (service.perform v op))
      removedWorld strayWorld :=
    (Turns.heal .refl hdevices).tail (.perform (.sync device.id) trivial hlacks)
  have hdropped : ∀ e : ServiceFault,
      (Except.error (.kernelApplyFailed (.io "refused")) : Except ServiceFault Unit) = .error e →
        e.isKernelApplyFailure = true := by
    intro e he
    rw [← Except.error.inj he]
    rfl
  refine (hall p (by simp) (by simp) _ _ hrun hdropped _ hcontinued).2 ⟨?_, .inr (by simp)⟩
  rw [Uuid.text_inj.1 hdevice, Key.text_inj.1 hpublic]
  exact hfound

/-- The kernel refuses to take the peer out, and the pass that succeeds after it does not either. -/
theorem removed_key_stays :
    emptyWorld.peers.entries = [] ∧ emptyWorld.kernel.peersOf device.name = [] ∧
      Turns (fun _ _ => True) emptyWorld refusingWorld ∧
      service.remove (uuid 1) refusingWorld
        = (.error (.kernelApplyFailed (.io "refused")), removedWorld) ∧
      ∃ report, service.reconciler.syncDevice device.id (heal removedWorld)
          = (.ok report, strayWorld) ∧ strayWorld.peers.entries = [] ∧
        HasKey MemoryKernel.peersOf device.name (draw 1).privateKey.publicKey strayWorld := by
  obtain ⟨-, hrefused, -, -, hpassed, hnone, hkey⟩ := computed_strayWorld
  exact ⟨rfl, peersOf_emptyWorld _, turns_refusingWorld trivial,
    call_eq (c := .remove (uuid 1)) hrefused, _, syncDevice_eq hpassed, hnone, hkey⟩

end Sample

end TunnelKeeper
