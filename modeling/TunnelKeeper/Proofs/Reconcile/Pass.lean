import TunnelKeeper.Proofs.Attempt
import TunnelKeeper.Proofs.Reconcile.Plan

/-!
# What a pass does

A pass reads its input (`Pass.Input`), plans by it, sends the changes and registers the device. If
it succeeds it has done all of that (`pass_ok`). If it fails, the stores and the registry are as
they were, and the kernel was read at most, or refused a change (`pass_failed`).
-/

namespace TunnelKeeper

/-! ## Input and plan -/

/-- What a pass goes by. -/
structure Pass.Input where
  /-- The stored device. -/
  device : Device
  /-- The live state of its interface. -/
  snapshot : Snapshot
  /-- The pool with the device's own addresses. -/
  base : AddressPool
  /-- The stored peers of the device. -/
  peers : List Peer

namespace Pass.Input

/-- The input with another live state. -/
def relive (i : Input) (s : Snapshot) : Input := { i with snapshot := s }

/-- The pool with what the kernel takes up. -/
def start (i : Input) : AddressPool := reserveKernel i.peers i.base i.snapshot.peers

/-- The verdicts on the peers. -/
def verdicts (i : Input) : List (Peer × Verdict) := (judgeAll i.snapshot i.start i.peers).1

/-- The pool after all of them. -/
def pool (i : Input) : AddressPool := (judgeAll i.snapshot i.start i.peers).2

/-- The changes that they call for. -/
def changes (i : Input) : List PeerChange := Pass.changes i.verdicts

@[simp] theorem snapshot_relive (i : Input) (s : Snapshot) : (i.relive s).snapshot = s := rfl

theorem start_extends (i : Input) : i.start.Extends i.base := extends_reserveKernel _ _ _

theorem pool_extends (i : Input) : i.pool.Extends i.start := extends_judgeAll _ _ _

theorem block_pool (i : Input) : i.pool.block = i.base.block := by
  rw [pool, block_judgeAll, start, block_reserveKernel]

end Pass.Input

namespace Pass

variable {snapshot snapshot' : Snapshot} {pool pool' : AddressPool} {p : Peer}

/-- A record is found faulty by its check alone. -/
theorem Judged.reason? {v : Verdict} (h : Judged snapshot pool p v pool') :
    v.reason? = match check p with
      | .error reason => some reason
      | .ok _ => none := by
  cases h with
  | invalid faulty => rw [faulty]; rfl
  | present sound | pushed sound | conflicting sound | removed sound | dormant sound => rw [sound]; rfl

theorem invalid_cons (p : Peer) (v : Verdict) (verdicts : List (Peer × Verdict)) :
    invalid ((p, v) :: verdicts)
      = (v.reason?.map fun reason => (p.id, reason)).toList ++ invalid verdicts := by
  cases hv : v.reason? with
  | none => simp [invalid, hv]
  | some reason => simp [invalid, hv]

/-- The faulty records of a listing depend neither on the kernel nor on the pool. -/
theorem invalid_judgeAll (snapshot snapshot' : Snapshot) (pool pool' : AddressPool) (ps : List Peer) :
    invalid (judgeAll snapshot pool ps).1 = invalid (judgeAll snapshot' pool' ps).1 := by
  induction ps generalizing pool pool' with
  | nil => rfl
  | cons p ps ih =>
    have h := (judged_judge snapshot pool p).reason?
    have h' := (judged_judge snapshot' pool' p).reason?
    rw [judgeAll_cons, judgeAll_cons, invalid_cons, invalid_cons, h, h', ih]

end Pass

/-- The report on one device whose pass came out so. -/
def SyncReport.ofOutcome (name : String) : Except ReconcileError SyncReport → SyncReport
  | .ok report => report
  | .error e => .ofFailure name e

/-! ## The registry -/

namespace Registry

variable {registry : Registry} {id id' : Uuid} {m m' : ManagedDevice}

/-- What is registered is what was registered last. -/
theorem insert_cases (h : (registry.insert id m)[id']? = some m') :
    (id = id' ∧ m = m') ∨ (id ≠ id' ∧ registry[id']? = some m') := by
  rw [Std.ExtTreeMap.getElem?_insert] at h
  by_cases hid : id = id'
  · rw [if_pos (Std.LawfulEqCmp.compare_eq_iff_eq.2 hid)] at h
    exact .inl ⟨hid, Option.some.inj h⟩
  · rw [if_neg (mt Std.LawfulEqCmp.compare_eq_iff_eq.1 hid)] at h
    exact .inr ⟨hid, h⟩

theorem of_erase (h : (registry.erase id)[id']? = some m) : registry[id']? = some m := by
  rw [Std.ExtTreeMap.getElem?_erase] at h
  split at h
  · cases h
  · exact h

theorem getElem?_insert_of_ne (registry : Registry) (m : ManagedDevice) (h : id' ≠ id) :
    (registry.insert id m)[id']? = registry[id']? := by
  rw [Std.ExtTreeMap.getElem?_insert, if_neg (mt Std.LawfulEqCmp.compare_eq_iff_eq.1 (Ne.symm h))]

theorem getElem?_erase_of_ne (registry : Registry) (h : id' ≠ id) :
    (registry.erase id)[id']? = registry[id']? := by
  rw [Std.ExtTreeMap.getElem?_erase, if_neg (mt Std.LawfulEqCmp.compare_eq_iff_eq.1 (Ne.symm h))]

/-- Registering a device as it is registered does nothing. -/
theorem insert_self (h : registry[id]? = some m) : registry.insert id m = registry := by
  refine Std.ExtTreeMap.ext_getElem? fun id' => ?_
  simp only [Std.ExtTreeMap.getElem?_insert, Std.LawfulEqCmp.compare_eq_iff_eq]
  split
  · rename_i hid
    rw [← hid, h]
  · rfl

/-- What was registered last counts. -/
theorem insert_insert (registry : Registry) (id : Uuid) (m m' : ManagedDevice) :
    (registry.insert id m).insert id m' = registry.insert id m' := by
  refine Std.ExtTreeMap.ext_getElem? fun id' => ?_
  simp only [Std.ExtTreeMap.getElem?_insert]
  split
  · rfl
  · rfl

end Registry

/-! ## One pass -/

namespace Reconciler

variable {κ σ δ : Type} {r : Reconciler κ σ δ} {id : Uuid} {w w' : World κ σ δ}
  {report : SyncReport}

/-- A pass over the device `id` goes by the input `i`, in which it finds no fault. -/
structure Reads (r : Reconciler κ σ δ) (id : Uuid) (w : World κ σ δ) (i : Pass.Input) : Prop where
  stored : r.devices.get w.devices id = .ok i.device
  live : (r.gateway.read i.device.name w.kernel).1 = .ok i.snapshot
  valid : i.device.validate = .ok ()
  base : i.device.initialPool = .ok i.base
  listed : ∃ page, r.peers.list w.peers (.ofDevice id) = .ok page ∧ page.items = i.peers
  tolerated : r.checkVerdicts i.verdicts = .ok ()

/-- The kernel after `changes` were sent to it, if there are any. -/
def Sent (g : Gateway κ) (name : String) (changes : List PeerChange) (k k' : κ) : Prop :=
  (changes = [] ∧ k' = k) ∨ (changes ≠ [] ∧ g.configure name changes k = (.ok (), k'))

/-- A pass by the input `i` succeeded and registered `device`. -/
structure Completed (r : Reconciler κ σ δ) (id : Uuid) (w : World κ σ δ) (i : Pass.Input)
    (device : Device) (report : SyncReport) (w' : World κ σ δ) : Prop extends Reads r id w i where
  device_id : device.id = i.device.id
  device_name : device.name = i.device.name
  network : device.network = i.device.network
  sent : Sent r.gateway i.device.name i.changes (r.gateway.read i.device.name w.kernel).2 w'.kernel
  peers : w'.peers = w.peers
  devices : w'.devices = w.devices
  registry : w'.registry = w.registry.insert device.id ⟨device, some i.pool⟩
  report_eq : report = .ofVerdicts i.device.name i.verdicts

/-- What a pass that fails may have done to the kernel. -/
inductive Spared (g : Gateway κ) (k : κ) : κ → Prop
  /-- It was not called. -/
  | untouched : Spared g k k
  /-- An interface was read. -/
  | read (name : String) : Spared g k (g.read name k).2
  /-- It refused a change. -/
  | refused {name : String} {s : Snapshot} {changes : List PeerChange} {e : KernelError} {k' : κ}
    (live : (g.read name k).1 = .ok s)
    (refused : g.configure name changes (g.read name k).2 = (.error e, k')) : Spared g k k'

theorem Spared.of_read {g : Gateway κ} {k k' : κ} {name : String}
    {outcome : Except KernelError Snapshot} (h : g.read name k = (outcome, k')) : Spared g k k' := by
  have := Spared.read (g := g) (k := k) name
  rwa [h] at this

/-- How a pass over the device `id` fails: the error, and what the kernel is like then. Peers were to be
changed in the last case only, and the error is the kernel's own. -/
inductive Failed (r : Reconciler κ σ δ) (id : Uuid) (w : World κ σ δ) : ReconcileError → κ → Prop
  | unstored {e : StoreError} (unstored : r.devices.get w.devices id = .error e) :
    Failed r id w (.store e) w.kernel
  | unread {d : Device} {e : KernelError} {k : κ} (stored : r.devices.get w.devices id = .ok d)
    (unread : r.gateway.read d.name w.kernel = (.error e, k)) : Failed r id w (.kernel e) k
  /-- The device or its peers will not do. -/
  | unfit {d : Device} {s : Snapshot} {e : ReconcileError} {k : κ}
    (stored : r.devices.get w.devices id = .ok d)
    (live : r.gateway.read d.name w.kernel = (.ok s, k)) : Failed r id w e k
  | refused {d : Device} {s : Snapshot} {changes : List PeerChange} {e : KernelError} {k k' : κ}
    (stored : r.devices.get w.devices id = .ok d)
    (live : r.gateway.read d.name w.kernel = (.ok s, k))
    (refused : r.gateway.configure d.name changes k = (.error e, k')) : Failed r id w (.kernel e) k'

theorem Failed.spared {e : ReconcileError} {k : κ} (h : r.Failed id w e k) :
    Spared r.gateway w.kernel k := by
  cases h with
  | unstored => exact .untouched
  | unread _ unread => exact .of_read unread
  | unfit _ live => exact .of_read live
  | @refused d s changes e k _ _ live refused =>
    have hread : (r.gateway.read d.name w.kernel).2 = k := by rw [live]
    rw [← hread] at refused
    exact .refused (by rw [live]) refused

theorem send_eq_ok {name : String} {changes : List PeerChange}
    (h : r.send name changes w = (.ok (), w')) :
    Sent r.gateway name changes w.kernel w'.kernel ∧ w' = { w with kernel := w'.kernel } := by
  unfold send at h
  by_cases hc : changes = []
  · rw [if_pos hc] at h
    obtain ⟨-, rfl⟩ := Prod.mk.inj h
    exact ⟨.inl ⟨hc, rfl⟩, rfl⟩
  · rw [if_neg hc] at h
    obtain ⟨k, hk, rfl⟩ := onKernel_eq_ok.1 h
    exact ⟨.inr ⟨hc, hk⟩, rfl⟩

theorem send_eq_error {name : String} {changes : List PeerChange} {e : ReconcileError}
    (h : r.send name changes w = (.error e, w')) :
    ∃ e' k, r.gateway.configure name changes w.kernel = (.error e', k) ∧ e = .kernel e' ∧
      w' = { w with kernel := k } := by
  unfold send at h
  by_cases hc : changes = []
  · rw [if_pos hc] at h
    cases h
  · rw [if_neg hc] at h
    rcases hk : r.gateway.configure name changes w.kernel with ⟨e' | u, k⟩
    · rw [onKernel_of_error hk] at h
      obtain ⟨h1, rfl⟩ := Prod.mk.inj h
      exact ⟨e', k, rfl, (Except.error.inj h1).symm, rfl⟩
    · rw [onKernel_of_ok hk] at h
      cases h

/-- The capacity of a device is worked out without changing what is configured. -/
theorem spec_withCapacity {d device : Device} {s : Snapshot} {reserved : UInt32}
    (h : (d.withSnapshot s).withCapacity reserved = .ok device) :
    device.id = d.id ∧ device.name = d.name ∧ device.network = d.network ∧
      device.initialPool = d.initialPool := by
  unfold Device.withCapacity at h
  cases hn : (d.withSnapshot s).network with
  | error e => rw [hn] at h; cases h
  | ok c =>
    rw [hn] at h
    rw [← Except.ok.inj h]
    exact ⟨rfl, rfl, rfl, rfl⟩

/-- A pass goes by the same input, but for the live state, as long as the stores are the same. -/
theorem Reads.relive {w₁ : World κ σ δ} {i : Pass.Input} {s : Snapshot} (h : r.Reads id w i)
    (hd : w₁.devices = w.devices) (hp : w₁.peers = w.peers)
    (hl : (r.gateway.read i.device.name w₁.kernel).1 = .ok s) :
    r.Reads id w₁ (i.relive s) where
  stored := hd ▸ h.stored
  live := hl
  valid := h.valid
  base := h.base
  listed := hp ▸ h.listed
  tolerated := by
    have hsame : Pass.invalid (i.relive s).verdicts = Pass.invalid i.verdicts :=
      Pass.invalid_judgeAll s i.snapshot _ i.start i.peers
    have := h.tolerated
    unfold checkVerdicts at this ⊢
    rwa [hsame]

/-- The steps of a pass that succeeds. -/
theorem pass_eq_ok_iff : r.pass id w = (.ok report, w') ↔
    ∃ i device w₁, r.Reads id w i ∧
      (i.device.withSnapshot i.snapshot).withCapacity r.policy.reservedAddresses = .ok device ∧
      r.send i.device.name i.changes { w with kernel := (r.gateway.read i.device.name w.kernel).2 }
        = (.ok (), w₁) ∧
      w' = { w₁ with registry := w₁.registry.insert device.id ⟨device, some i.pool⟩ } ∧
      report = .ofVerdicts i.device.name i.verdicts := by
  unfold pass
  simp only [Attempt.bind_eq_ok, ask_eq_ok, onKernel_eq_ok, Attempt.ofExcept_eq_ok]
  constructor
  · rintro ⟨d, _, ⟨hd, rfl⟩, s, _, ⟨k, hk, rfl⟩, _, _, ⟨hv, rfl⟩, device, _, ⟨hc, rfl⟩, base, _,
      ⟨hb, rfl⟩, page, _, ⟨hl, rfl⟩, _, _, ⟨ht, rfl⟩, _, w₁, hs, _, _, hr, hp⟩
    obtain ⟨-, hname, -, hbase⟩ := spec_withCapacity hc
    rw [hbase] at hb
    have hread : r.gateway.read d.name w.kernel = (.ok s, k) := hk
    obtain ⟨-, rfl⟩ := Prod.mk.inj hr
    obtain ⟨rfl, rfl⟩ := Attempt.pure_eq_ok.1 hp
    refine ⟨⟨d, s, base, page.items⟩, device, w₁, ⟨hd, by rw [hread], hv, hb, ⟨page, hl, rfl⟩, ht⟩, hc,
      ?_, rfl, ?_⟩
    · rw [hname] at hs
      simp only [hread]
      exact hs
    · rw [hname]
      rfl
  · rintro ⟨⟨d, s, base, peers⟩, device, w₁, ⟨hd, hlive, hv, hb, ⟨page, hl, rfl⟩, ht⟩, hc, hs, rfl, rfl⟩
    obtain ⟨-, hname, -, hbase⟩ := spec_withCapacity hc
    refine ⟨d, w, ⟨hd, rfl⟩, s, _, ⟨(r.gateway.read d.name w.kernel).2, Prod.ext hlive rfl, rfl⟩, (), _,
      ⟨hv, rfl⟩, device, _, ⟨hc, rfl⟩, base, _, ⟨hbase.trans hb, rfl⟩, page, _, ⟨hl, rfl⟩, (), _,
      ⟨ht, rfl⟩, (), w₁, ?_, (), _, rfl, ?_⟩
    · rw [hname]
      exact hs
    · rw [Attempt.pure_eq_ok, hname]
      exact ⟨rfl, rfl⟩

theorem pass_ok (h : r.pass id w = (.ok report, w')) :
    ∃ i device, r.Completed id w i device report w' := by
  obtain ⟨i, device, w₁, hreads, hc, hs, rfl, rfl⟩ := pass_eq_ok_iff.1 h
  obtain ⟨hid, hname, hnet, -⟩ := spec_withCapacity hc
  obtain ⟨hsent, hw₁⟩ := send_eq_ok hs
  exact ⟨i, device, hreads, hid, hname, hnet, hsent, by rw [hw₁], by rw [hw₁],
    by simp only; rw [hw₁], rfl⟩

/-- A pass succeeds once its input can be read and the kernel takes the changes, if there are any. -/
theorem pass_ok_of_taken {i : Pass.Input} (h : r.Reads id w i) (htaken : i.changes = [] ∨
    (r.gateway.configure i.device.name i.changes (r.gateway.read i.device.name w.kernel).2).1 = .ok ()) :
    ∃ w', r.pass id w = (.ok (.ofVerdicts i.device.name i.verdicts), w') := by
  obtain ⟨block, hnet, -⟩ := Device.spec_initialPool h.base
  have hcapacity : ∃ device, (i.device.withSnapshot i.snapshot).withCapacity
      r.policy.reservedAddresses = .ok device := by
    unfold Device.withCapacity
    rw [show (i.device.withSnapshot i.snapshot).network = .ok block from hnet]
    exact ⟨_, rfl⟩
  have hsend : ∃ w₁, r.send i.device.name i.changes
      { w with kernel := (r.gateway.read i.device.name w.kernel).2 } = (.ok (), w₁) := by
    unfold send
    split
    · exact ⟨_, rfl⟩
    · rename_i hsome
      exact ⟨_, onKernel_of_ok (Attempt.run_eq (htaken.resolve_left hsome))⟩
  obtain ⟨device, hdevice⟩ := hcapacity
  obtain ⟨w₁, hw₁⟩ := hsend
  exact ⟨_, pass_eq_ok_iff.2 ⟨i, device, w₁, h, hdevice, hw₁, rfl, rfl⟩⟩

/-- A pass that fails leaves the stores and the registry. -/
theorem pass_failed {e : ReconcileError} (h : r.pass id w = (.error e, w')) :
    ∃ k, r.Failed id w e k ∧ w' = { w with kernel := k } := by
  unfold pass at h
  cases hd : r.devices.get w.devices id with
  | error e' =>
    rw [Attempt.bind_of_error (by rw [ask_apply, hd]; rfl)] at h
    obtain ⟨h1, rfl⟩ := Prod.mk.inj h
    obtain rfl := Except.error.inj h1
    exact ⟨_, .unstored hd, rfl⟩
  | ok d =>
  rw [Attempt.bind_of_ok (ask_eq_ok.2 ⟨hd, rfl⟩)] at h
  rcases hs : r.gateway.read d.name w.kernel with ⟨e' | s, k⟩
  · rw [Attempt.bind_of_error (onKernel_of_error hs)] at h
    obtain ⟨h1, rfl⟩ := Prod.mk.inj h
    obtain rfl := Except.error.inj h1
    exact ⟨k, .unread hd hs, rfl⟩
  rw [Attempt.bind_of_ok (onKernel_of_ok hs)] at h
  have hunfit : r.Failed id w e k := .unfit hd hs
  rcases Attempt.bind_eq_error.1 h with h | ⟨_, _, hv, h⟩
  · exact ⟨k, hunfit, Attempt.ofExcept_eq_error h⟩
  obtain ⟨-, rfl⟩ := Attempt.ofExcept_eq_ok.1 hv
  rcases Attempt.bind_eq_error.1 h with h | ⟨device, _, hd', h⟩
  · exact ⟨k, hunfit, Attempt.ofExcept_eq_error h⟩
  obtain ⟨hc, rfl⟩ := Attempt.ofExcept_eq_ok.1 hd'
  rcases Attempt.bind_eq_error.1 h with h | ⟨base, _, hb, h⟩
  · exact ⟨k, hunfit, Attempt.ofExcept_eq_error h⟩
  obtain ⟨-, rfl⟩ := Attempt.ofExcept_eq_ok.1 hb
  rcases Attempt.bind_eq_error.1 h with h | ⟨page, _, hl, h⟩
  · exact ⟨k, hunfit, ask_eq_error h⟩
  obtain ⟨-, rfl⟩ := ask_eq_ok.1 hl
  rcases Attempt.bind_eq_error.1 h with h | ⟨_, _, ht, h⟩
  · exact ⟨k, hunfit, Attempt.ofExcept_eq_error h⟩
  obtain ⟨-, rfl⟩ := Attempt.ofExcept_eq_ok.1 ht
  rcases Attempt.bind_eq_error.1 h with h | ⟨_, _, -, h⟩
  · obtain ⟨e', k', hk', rfl, rfl⟩ := send_eq_error h
    rw [(spec_withCapacity hc).2.1] at hk'
    exact ⟨k', .refused hd hs hk', rfl⟩
  rcases Attempt.bind_eq_error.1 h with h | ⟨_, _, -, h⟩
  · cases h
  · cases h

/-! ## A pass as it is called -/

theorem pass_of_syncDevice (h : r.syncDevice id w = (.ok report, w')) :
    r.pass id w = (.ok report, w') := by
  obtain ⟨outcome, w₁, hc, h⟩ := Attempt.bind_eq_ok.1 h
  obtain ⟨h1, h2⟩ := Prod.mk.inj ((Attempt.capture_apply (r.pass id) w).symm.trans hc)
  subst h2
  obtain rfl := Except.ok.inj h1
  cases hp : (r.pass id w).1 with
  | ok report' =>
    rw [hp] at h
    obtain ⟨rfl, rfl⟩ := Attempt.pure_eq_ok.1 h
    exact Attempt.run_eq hp
  | error e =>
    rw [hp] at h
    obtain ⟨_, _, -, h⟩ := Attempt.bind_eq_ok.1 h
    cases h

theorem syncDevice_ok (h : r.syncDevice id w = (.ok report, w')) :
    ∃ i device, r.Completed id w i device report w' := pass_ok (pass_of_syncDevice h)

theorem syncDevice_of_pass (h : r.pass id w = (.ok report, w')) :
    r.syncDevice id w = (.ok report, w') :=
  Attempt.bind_eq_ok.2 ⟨.ok report, w', by rw [Attempt.capture_apply, h], rfl⟩

/-- A pass that fails drops the device from the registry, and that is all it changes. -/
theorem syncDevice_failed {e : ReconcileError} (h : r.syncDevice id w = (.error e, w')) :
    ∃ k, r.Failed id w e k ∧ w' = { w with kernel := k, registry := w.registry.erase id } := by
  unfold syncDevice at h
  rw [Attempt.bind_of_ok (Attempt.capture_apply (r.pass id) w)] at h
  cases hp : (r.pass id w).1 with
  | ok report' =>
    rw [hp] at h
    cases h
  | error e' =>
    obtain ⟨k, hk, hw⟩ := pass_failed (Attempt.run_eq hp)
    simp only [hp] at h
    rw [Attempt.bind_of_ok (unregister_apply id _)] at h
    obtain ⟨h1, rfl⟩ := Prod.mk.inj h
    obtain rfl := Except.error.inj h1
    exact ⟨k, hk, by rw [hw]⟩

theorem syncDevice_error {e : ReconcileError} (h : r.syncDevice id w = (.error e, w')) :
    ∃ k, Spared r.gateway w.kernel k ∧
      w' = { w with kernel := k, registry := w.registry.erase id } := by
  obtain ⟨k, hk, hw⟩ := syncDevice_failed h
  exact ⟨k, hk.spared, hw⟩

theorem peers_syncDevice (r : Reconciler κ σ δ) (id : Uuid) (w : World κ σ δ) :
    (r.syncDevice id w).2.peers = w.peers := by
  rcases h : r.syncDevice id w with ⟨e | report, w'⟩
  · obtain ⟨k, -, rfl⟩ := syncDevice_error h
    rfl
  · obtain ⟨i, device, hc⟩ := syncDevice_ok h
    exact hc.peers

theorem devices_syncDevice (r : Reconciler κ σ δ) (id : Uuid) (w : World κ σ δ) :
    (r.syncDevice id w).2.devices = w.devices := by
  rcases h : r.syncDevice id w with ⟨e | report, w'⟩
  · obtain ⟨k, -, rfl⟩ := syncDevice_error h
    rfl
  · obtain ⟨i, device, hc⟩ := syncDevice_ok h
    exact hc.devices

/-! ## Several passes, and lookups -/

/-- A pass over several devices is a pass over the first, and then over the others. -/
theorem syncAll_cons (d : Device) (ds : List Device) (w : World κ σ δ) :
    r.syncAll (d :: ds) w
      = ((r.syncAll ds (r.syncDevice d.id w).2).1.map
          (SyncReport.ofOutcome d.name (r.syncDevice d.id w).1).append,
        (r.syncAll ds (r.syncDevice d.id w).2).2) := by
  rw [syncAll, Attempt.bind_of_ok (Attempt.capture_apply (r.syncDevice d.id) w)]
  rcases hothers : r.syncAll ds (r.syncDevice d.id w).2 with ⟨e | others, v⟩
  · rw [Attempt.bind_of_error hothers]
    rfl
  · rw [Attempt.bind_of_ok hothers]
    cases (r.syncDevice d.id w).1 with
    | error e => rfl
    | ok report => rfl

theorem device_of_unregistered (h : w.registry[id]? = none) :
    (r.device id w).2 = (r.syncDevice id w).2 := by
  rw [device, Attempt.bind_of_ok (Attempt.get_apply w)]
  simp only [h]
  rcases hsync : r.syncDevice id w with ⟨e | report, v⟩
  · rw [Attempt.bind_of_error hsync]
  · rw [Attempt.bind_of_ok hsync, Attempt.bind_of_ok (Attempt.get_apply v)]
    cases v.registry[id]? with
    | none => rfl
    | some m => rfl

/-- A registered device is looked up without doing anything. -/
theorem device_of_registered {m : ManagedDevice} (h : w.registry[id]? = some m) :
    r.device id w = (.ok m, w) := by
  refine Attempt.bind_eq_ok.2 ⟨w, w, by simp, ?_⟩
  simp only [h]
  rfl

/-- A device that was looked up is registered by then. -/
theorem registered_of_device {m : ManagedDevice} (h : r.device id w = (.ok m, w')) :
    w'.registry[id]? = some m := by
  obtain ⟨v, _, hv, h⟩ := Attempt.bind_eq_ok.1 h
  obtain ⟨rfl, rfl⟩ : w = v ∧ w = _ := by simpa using hv
  cases hm : w.registry[id]? with
  | some m' =>
    simp only [hm] at h
    obtain ⟨rfl, rfl⟩ := Attempt.pure_eq_ok.1 h
    exact hm
  | none =>
    simp only [hm] at h
    obtain ⟨_, v, -, h⟩ := Attempt.bind_eq_ok.1 h
    obtain ⟨u, _, hu, h⟩ := Attempt.bind_eq_ok.1 h
    obtain ⟨rfl, rfl⟩ : v = u ∧ v = _ := by simpa using hu
    cases hm' : v.registry[id]? with
    | some m' =>
      simp only [hm'] at h
      obtain ⟨rfl, rfl⟩ := Attempt.pure_eq_ok.1 h
      exact hm'
    | none =>
      simp only [hm'] at h
      cases h

section Preserves

open Attempt (Preserves)

variable {I : World κ σ δ → Prop} (hsync : ∀ id, Preserves I (r.syncDevice id))
include hsync

theorem preserves_syncAll_of (ds : List Device) : Preserves I (r.syncAll ds) := by
  induction ds with
  | nil => exact .pure _
  | cons d ds ih =>
    refine (hsync d.id).capture.bind fun first => ih.bind fun others => ?_
    cases first with
    | ok report => exact .pure _
    | error e => exact .pure _

theorem preserves_syncDevices_of : Preserves I r.syncDevices :=
  (Preserves.ask _ _).bind fun page => preserves_syncAll_of hsync page.items

theorem preserves_device_of (id : Uuid) : Preserves I (r.device id) := by
  refine Preserves.get.bind fun w => ?_
  cases w.registry[id]? with
  | some m => exact .pure _
  | none =>
    refine (hsync id).bind fun _ => Preserves.get.bind fun v => ?_
    cases v.registry[id]? with
    | some m => exact .pure _
    | none => exact .fail _

end Preserves

end Reconciler

end TunnelKeeper
