import TunnelKeeper.Proofs.Kernel.Separate
import TunnelKeeper.Proofs.Reconcile.Pass
import TunnelKeeper.Proofs.Store.Devices

/-!
# Devices have nothing to do with each other

`Alike d w v` says that two worlds are the same as far as the device `d` goes: its row, the listing of
its peers, its interface, and what is registered of it. What an operation does for one device (`Own`)
comes out alike in worlds that are, and leaves every other world-part as it was; a pass is like that
(`own_syncDevice`). A pass has the first property because each of its steps has, and there is one rule
(`Attempt.Agrees`) for each way to put steps together. So operations for several devices, done in
turn, do for each of them what its own would have done alone (`alone_inTurn`).
-/

namespace TunnelKeeper

/-! ## Two runs of an operation -/

namespace Attempt

variable {ε ε' ω α β : Type} {R : ω → ω → Prop}

/-- From states that are related the operation gives the same result, and related states. -/
def Agrees (R : ω → ω → Prop) (x : Attempt ε ω α) : Prop :=
  ∀ w v, R w v → (x w).1 = (x v).1 ∧ R (x w).2 (x v).2

theorem Agrees.pure (a : α) : Agrees R (Pure.pure a : Attempt ε ω α) := fun _ _ h => ⟨rfl, h⟩

theorem Agrees.fail (e : ε) : Agrees R (Attempt.fail e : Attempt ε ω α) := fun _ _ h => ⟨rfl, h⟩

theorem Agrees.ofExcept (wrap : ε' → ε) (r : Except ε' α) :
    Agrees R (Attempt.ofExcept wrap r : Attempt ε ω α) := by
  cases r with
  | error e => exact .fail (wrap e)
  | ok a => exact .pure a

theorem Agrees.capture {x : Attempt ε ω α} (hx : Agrees R x) :
    Agrees R (Attempt.capture x : Attempt ε' ω (Except ε α)) := fun w v h =>
  ⟨congrArg Except.ok (hx w v h).1, (hx w v h).2⟩

theorem Agrees.modify {f : ω → ω} (hf : ∀ w v, R w v → R (f w) (f v)) :
    Agrees R (Attempt.modify f : Attempt ε ω Unit) := fun w v h => ⟨rfl, hf w v h⟩

/-- Of what comes next, only what can come of the first step matters. -/
theorem Agrees.bind {x : Attempt ε ω α} {f : α → Attempt ε ω β} (hx : Agrees R x)
    (hf : ∀ w v a, R w v → (x w).1 = .ok a → Agrees R (f a)) : Agrees R (x >>= f) := by
  intro w v h
  obtain ⟨hresult, hafter⟩ := hx w v h
  rw [bind_apply, bind_apply]
  rcases hw : x w with ⟨r, w'⟩
  rcases hv : x v with ⟨r', v'⟩
  rw [hw, hv] at hresult hafter
  obtain rfl : r = r' := hresult
  cases r with
  | error e => exact ⟨rfl, hafter⟩
  | ok a => exact hf w v a h (by rw [hw]) w' v' hafter

end Attempt

/-! ## Worlds that are the same for a device -/

namespace Reconciler

open Attempt (Agrees)

variable {κ σ δ τ ε ε' α : Type} {r : Reconciler κ σ δ} {part : κ → String → τ} {d e : Device}
  {w v u : World κ σ δ}

/-- The worlds are the same as far as the device `d` goes, and have no other device under its
identifier. -/
structure Alike (r : Reconciler κ σ δ) (part : κ → String → τ) (d : Device) (w v : World κ σ δ) :
    Prop where
  stored : r.devices.get w.devices d.id = r.devices.get v.devices d.id
  only : ∀ e, r.devices.get w.devices d.id = .ok e → e = d
  listed : r.peers.list w.peers (.ofDevice d.id) = r.peers.list v.peers (.ofDevice d.id)
  kernel : part w.kernel d.name = part v.kernel d.name
  registered : w.registry[d.id]? = v.registry[d.id]?

namespace Alike

theorem symm (h : r.Alike part d w v) : r.Alike part d v w :=
  ⟨h.stored.symm, fun e he => h.only e (h.stored.trans he), h.listed.symm, h.kernel.symm,
    h.registered.symm⟩

theorem trans (h : r.Alike part d w v) (h' : r.Alike part d v u) : r.Alike part d w u :=
  ⟨h.stored.trans h'.stored, h.only, h.listed.trans h'.listed, h.kernel.trans h'.kernel,
    h.registered.trans h'.registered⟩

theorem withKernel {k k' : κ} (h : r.Alike part d w v) (hk : part k d.name = part k' d.name) :
    r.Alike part d { w with kernel := k } { v with kernel := k' } :=
  ⟨h.stored, h.only, h.listed, hk, h.registered⟩

theorem register (h : r.Alike part d w v) (m : ManagedDevice) :
    r.Alike part d { w with registry := w.registry.insert m.device.id m }
      { v with registry := v.registry.insert m.device.id m } := by
  refine ⟨h.stored, h.only, h.listed, h.kernel, ?_⟩
  simp only [Std.ExtTreeMap.getElem?_insert, h.registered]

theorem unregister (h : r.Alike part d w v) (id : Uuid) :
    r.Alike part d { w with registry := w.registry.erase id }
      { v with registry := v.registry.erase id } := by
  refine ⟨h.stored, h.only, h.listed, h.kernel, ?_⟩
  simp only [Std.ExtTreeMap.getElem?_erase, h.registered]

end Alike

/-- A device that a store has is the only one that the store gives under its identifier. -/
theorem alike_self {Devices : δ → List Device → Prop} {ds : List Device}
    (hd : r.devices.Faithful Devices) (hds : Devices w.devices ds) (hmem : d ∈ ds) :
    r.Alike part d w w := by
  refine ⟨rfl, fun e he => ?_, rfl, rfl, rfl⟩
  obtain ⟨he, hid⟩ := hd.get hds he
  exact List.inj_on_of_nodup_map (hd.nodup hds) he hmem hid

/-! ## Steps -/

theorem agrees_ask {wrap : ε' → ε} {q : World κ σ δ → Except ε' α}
    (hq : ∀ w v, r.Alike part d w v → q w = q v) : Agrees (r.Alike part d) (ask wrap q) := by
  intro w v h
  rw [ask_apply, ask_apply, hq w v h]
  exact ⟨rfl, h⟩

theorem agrees_onKernel {wrap : KernelError → ε} {x : Attempt KernelError κ α}
    (hx : Gateway.Within part d.name x) : Agrees (r.Alike part d) (onKernel wrap x) := by
  intro w v h
  obtain ⟨hresult, hafter⟩ := hx.alike w.kernel v.kernel h.kernel
  rw [onKernel_apply, onKernel_apply]
  exact ⟨by rw [hresult], h.withKernel hafter⟩

theorem agrees_send (hsep : r.gateway.Separate part) (changes : List PeerChange) :
    Agrees (r.Alike part d) (r.send d.name changes) := by
  unfold send
  split
  · exact .pure ()
  · exact agrees_onKernel (hsep.configure d.name changes)

theorem agrees_pass (hsep : r.gateway.Separate part) : Agrees (r.Alike part d) (r.pass d.id) := by
  refine (agrees_ask fun w v h => h.stored).bind fun w v stored h hstored => ?_
  obtain rfl : stored = d := by
    rw [ask_apply] at hstored
    cases hget : r.devices.get w.devices d.id with
    | error e =>
      rw [hget] at hstored
      cases hstored
    | ok e =>
      rw [hget] at hstored
      obtain rfl := Except.ok.inj hstored
      exact h.only e hget
  refine (agrees_onKernel (hsep.read stored.name)).bind fun _ _ snapshot _ _ => ?_
  refine (Agrees.ofExcept _ _).bind fun _ _ _ _ _ => ?_
  refine (Agrees.ofExcept _ _).bind fun w _ device _ hdevice => ?_
  obtain ⟨-, hname, -⟩ := spec_withCapacity (Attempt.ofExcept_eq_ok.1 (Attempt.run_eq hdevice)).1
  rw [hname]
  refine (Agrees.ofExcept _ _).bind fun _ _ _ _ _ => ?_
  refine (agrees_ask fun w v h => h.listed).bind fun _ _ page _ _ => ?_
  refine (Agrees.ofExcept _ _).bind fun _ _ _ _ _ => ?_
  refine (agrees_send hsep _).bind fun _ _ _ _ _ => ?_
  exact (Agrees.modify fun _ _ h => h.register _).bind fun _ _ _ _ _ => .pure _

theorem agrees_syncDevice (hsep : r.gateway.Separate part) :
    Agrees (r.Alike part d) (r.syncDevice d.id) := by
  refine (agrees_pass hsep).capture.bind fun _ _ outcome _ _ => ?_
  cases outcome with
  | ok report => exact .pure report
  | error e => exact (Agrees.modify fun _ _ h => h.unregister d.id).bind fun _ _ _ _ _ => .fail e

/-! ## What is done for one device -/

/-- The operation is about the device `d`: it goes by what there is of `d`, and of other devices it
changes nothing. -/
structure Own (r : Reconciler κ σ δ) (part : κ → String → τ) (d : Device)
    (x : Attempt ε (World κ σ δ) α) : Prop where
  agrees : Agrees (r.Alike part d) x
  devices : ∀ w, (x w).2.devices = w.devices
  others : ∀ e w, e.id ≠ d.id → e.name ≠ d.name → r.Alike part d w w → r.Alike part e w w →
    r.Alike part e (x w).2 w

theorem Own.pure (a : α) : r.Own part d (Pure.pure a : Attempt ε (World κ σ δ) α) :=
  ⟨.pure a, fun _ => rfl, fun _ _ _ _ _ he => he⟩

theorem Own.capture {x : Attempt ε (World κ σ δ) α} (hx : r.Own part d x) :
    r.Own part d (Attempt.capture x : Attempt ε' (World κ σ δ) (Except ε α)) :=
  ⟨hx.agrees.capture, hx.devices, hx.others⟩

theorem Own.bind {β : Type} {x : Attempt ε (World κ σ δ) α} {f : α → Attempt ε (World κ σ δ) β}
    (hx : r.Own part d x) (hf : ∀ a, r.Own part d (f a)) : r.Own part d (x >>= f) where
  agrees := hx.agrees.bind fun _ _ a _ _ => (hf a).agrees
  devices w := by
    rw [Attempt.bind_apply]
    rcases hw : x w with ⟨o, w'⟩
    have hsame := hx.devices w
    rw [hw] at hsame
    cases o with
    | error => exact hsame
    | ok a => exact ((hf a).devices w').trans hsame
  others e w hid hname h he := by
    rw [Attempt.bind_apply]
    rcases hw : x w with ⟨o, w'⟩
    have hother := hx.others e w hid hname h he
    have hafter := (hx.agrees w w h).2
    rw [hw] at hother hafter
    cases o with
    | error => exact hother
    | ok a => exact ((hf a).others e w' hid hname hafter (hother.trans hother.symm)).trans hother

/-- A call to the kernel about the interface of a device. -/
theorem own_onKernel {wrap : KernelError → ε} {x : Attempt KernelError κ α}
    (hx : Gateway.Within part d.name x) : r.Own part d (onKernel wrap x) where
  agrees := agrees_onKernel hx
  devices w := by rw [onKernel_apply]
  others e w hid hname h he := by
    rw [onKernel_apply]
    exact he.withKernel (hx.others w.kernel e.name hname)

/-- A pass that fails has made calls about its interface at most. -/
theorem Failed.others (hsep : r.gateway.Separate part) {err : ReconcileError} {k : κ} {name : String}
    (h : r.Failed d.id w err k) (honly : ∀ e, r.devices.get w.devices d.id = .ok e → e = d)
    (hne : name ≠ d.name) : part k name = part w.kernel name := by
  cases h with
  | unstored => rfl
  | unread stored unread =>
    rw [honly _ stored] at unread
    exact (hsep.read d.name).spares unread hne
  | unfit stored live =>
    rw [honly _ stored] at live
    exact (hsep.read d.name).spares live hne
  | refused stored live refused =>
    rw [honly _ stored] at live refused
    exact ((hsep.configure d.name _).spares refused hne).trans
      ((hsep.read d.name).spares live hne)

theorem Sent.others (hsep : r.gateway.Separate part) {name other : String}
    {changes : List PeerChange} {k k' : κ} (h : Sent r.gateway name changes k k')
    (hne : other ≠ name) : part k' other = part k other := by
  rcases h with ⟨-, rfl⟩ | ⟨-, hsent⟩
  · rfl
  · exact (hsep.configure name changes).spares hsent hne

theorem own_syncDevice (hsep : r.gateway.Separate part) (d : Device) :
    r.Own part d (r.syncDevice d.id) where
  agrees := agrees_syncDevice hsep
  devices w := by
    rcases h : r.syncDevice d.id w with ⟨err | report, w'⟩
    · obtain ⟨k, -, rfl⟩ := syncDevice_failed h
      rfl
    · obtain ⟨i, device, hc⟩ := syncDevice_ok h
      exact hc.devices
  others e w hid hname h he := by
    rcases hrun : r.syncDevice d.id w with ⟨err | report, w'⟩
    · obtain ⟨k, hfailed, rfl⟩ := syncDevice_failed hrun
      refine ⟨he.stored, he.only, he.listed, hfailed.others hsep h.only hname, ?_⟩
      exact Registry.getElem?_erase_of_ne w.registry hid
    · obtain ⟨i, device, hc⟩ := syncDevice_ok hrun
      have hdev : i.device = d := h.only i.device hc.stored
      have hsent := hc.sent
      rw [hdev] at hsent
      refine ⟨by rw [hc.devices], by rw [hc.devices]; exact he.only, by rw [hc.peers], ?_, ?_⟩
      · exact (hsent.others hsep hname).trans ((hsep.read d.name).others w.kernel e.name hname)
      · rw [hc.registry]
        refine Registry.getElem?_insert_of_ne w.registry _ ?_
        rw [hc.device_id, hdev]
        exact hid

/-! ## Devices in turn -/

/-- What comes of operations for devices, done one after another. -/
def inTurn {ω : Type} (x : Device → Attempt ε ω α) : List Device → ω → List (Device × Except ε α) × ω
  | [], w => ([], w)
  | d :: ds, w => ((d, (x d w).1) :: (inTurn x ds (x d w).2).1, (inTurn x ds (x d w).2).2)

section InTurn

variable {x : Device → Attempt ε (World κ σ δ) α} {ds : List Device}

theorem devices_inTurn (hx : ∀ d, r.Own part d (x d)) (ds : List Device) (w : World κ σ δ) :
    (inTurn x ds w).2.devices = w.devices := by
  induction ds generalizing w with
  | nil => rfl
  | cons d ds ih => exact (ih (x d w).2).trans ((hx d).devices w)

/-- The others of a list without an identifier twice and without a name twice. -/
theorem ne_of_nodup (hids : ((d :: ds).map Device.id).Nodup)
    (hnames : ((d :: ds).map Device.name).Nodup) (he : e ∈ ds) : e.id ≠ d.id ∧ e.name ≠ d.name := by
  rw [List.map_cons, List.nodup_cons] at hids hnames
  exact ⟨fun h => hids.1 (h ▸ List.mem_map_of_mem he), fun h => hnames.1 (h ▸ List.mem_map_of_mem he)⟩

theorem others_inTurn (hx : ∀ d, r.Own part d (x d)) (he : r.Alike part e w w)
    (hself : ∀ d ∈ ds, r.Alike part d w w) (hids : ((e :: ds).map Device.id).Nodup)
    (hnames : ((e :: ds).map Device.name).Nodup) : r.Alike part e (inTurn x ds w).2 w := by
  induction ds generalizing w with
  | nil => exact he
  | cons d ds ih =>
    obtain ⟨hid, hname⟩ := ne_of_nodup hids hnames List.mem_cons_self
    have hd := hself d List.mem_cons_self
    have hfirst := (hx d).others e w (Ne.symm hid) (Ne.symm hname) hd he
    have hsub : (e :: ds).Sublist (e :: d :: ds) := (List.sublist_cons_self d ds).cons_cons e
    have hids' := (hsub.map Device.id).nodup hids
    have hnames' := (hsub.map Device.name).nodup hnames
    refine (ih (hfirst.trans hfirst.symm) (fun b hb => ?_) hids' hnames').trans hfirst
    obtain ⟨hbid, hbname⟩ := ne_of_nodup (List.nodup_cons.1 hids).2 (List.nodup_cons.1 hnames).2 hb
    have hb' := (hx d).others b w hbid hbname hd (hself b (List.mem_cons_of_mem _ hb))
    exact hb'.trans hb'.symm

/-- Done in turn, each operation gives what it gives alone, and leaves its device as it does alone. -/
theorem alone_inTurn (hx : ∀ d, r.Own part d (x d)) (hself : ∀ d ∈ ds, r.Alike part d w w)
    (hids : (ds.map Device.id).Nodup) (hnames : (ds.map Device.name).Nodup) :
    (inTurn x ds w).1 = ds.map (fun d => (d, (x d w).1)) ∧
      ∀ d ∈ ds, r.Alike part d (inTurn x ds w).2 (x d w).2 := by
  induction ds generalizing w with
  | nil => exact ⟨rfl, fun d hd => absurd hd List.not_mem_nil⟩
  | cons d ds ih =>
    have hd := hself d List.mem_cons_self
    have hrest : ∀ e ∈ ds, r.Alike part e (x d w).2 w := by
      intro e he
      obtain ⟨hid, hname⟩ := ne_of_nodup hids hnames he
      exact (hx d).others e w hid hname hd (hself e (List.mem_cons_of_mem _ he))
    have hrest' : ∀ e ∈ ds, r.Alike part e (x d w).2 (x d w).2 :=
      fun e he => (hrest e he).trans (hrest e he).symm
    obtain ⟨hresults, hafter⟩ := ih hrest' (List.nodup_cons.1 hids).2 (List.nodup_cons.1 hnames).2
    constructor
    · have hsame : ds.map (fun e => (e, (x e (x d w).2).1)) = ds.map fun e => (e, (x e w).1) :=
        List.map_congr_left fun e he => by rw [((hx e).agrees _ _ (hrest e he)).1]
      show (d, (x d w).1) :: (inTurn x ds (x d w).2).1 = _
      rw [hresults, hsame, List.map_cons]
    · intro e he
      rcases List.mem_cons.1 he with rfl | he
      · have hown := ((hx e).agrees w w hd).2
        exact others_inTurn hx hown hrest' hids hnames
      · exact (hafter e he).trans ((hx e).agrees _ _ (hrest e he)).2

/-- So it is with the stored devices, in the order of their listing. -/
theorem alone_of_listed {Devices : δ → List Device → Prop} {page : Page Device}
    (hx : ∀ d, r.Own part d (x d)) (hd : r.devices.Faithful Devices) (hds : Devices w.devices ds)
    (hnames : (ds.map Device.name).Nodup) (hlist : r.devices.list w.devices .all = .ok page) :
    (inTurn x page.items w).1 = page.items.map (fun d => (d, (x d w).1)) ∧
      ∀ d ∈ ds, r.Alike part d (inTurn x page.items w).2 (x d w).2 := by
  have hperm := hd.list hds hlist
  have hself : ∀ d ∈ page.items, r.Alike part d w w :=
    fun d h => alike_self hd hds (hperm.mem_iff.1 h)
  obtain ⟨hresults, hafter⟩ := alone_inTurn hx hself
    ((hperm.map Device.id).nodup_iff.2 (hd.nodup hds)) ((hperm.map Device.name).nodup_iff.2 hnames)
  exact ⟨hresults, fun d h => hafter d (hperm.mem_iff.2 h)⟩

end InTurn

end Reconciler

/-! ## Passes over devices -/

/-- The reports in one. -/
def SyncReport.join (reports : List SyncReport) : SyncReport := reports.foldr .append .empty

/-- The report on devices with these outcomes. -/
def SyncReport.ofOutcomes (outcomes : List (Device × Except ReconcileError SyncReport)) : SyncReport :=
  .join (outcomes.map fun o => .ofOutcome o.1.name o.2)

namespace Reconciler

variable {κ σ δ τ : Type} {r : Reconciler κ σ δ} {part : κ → String → τ} {w : World κ σ δ}

theorem syncAll_eq (ds : List Device) (w : World κ σ δ) :
    r.syncAll ds w = (.ok (.ofOutcomes (inTurn (fun d => r.syncDevice d.id) ds w).1),
      (inTurn (fun d => r.syncDevice d.id) ds w).2) := by
  induction ds generalizing w with
  | nil => rfl
  | cons d ds ih =>
    rw [syncAll_cons, ih]
    rfl

/-- The outcome of a pass over the device `name` says so. -/
def Names (name : String) (outcome : Except ReconcileError SyncReport) : Prop :=
  ∀ report, outcome = .ok report → report.synced = [name] ∧ report.failed = []

/-- A report on devices has each of them once, as synced or as failed. -/
theorem names_ofOutcomes {outcomes : List (Device × Except ReconcileError SyncReport)}
    (h : ∀ o ∈ outcomes, Names o.1.name o.2) :
    ((SyncReport.ofOutcomes outcomes).synced
        ++ (SyncReport.ofOutcomes outcomes).failed.map Prod.fst).Perm
      (outcomes.map fun o => o.1.name) := by
  induction outcomes with
  | nil => exact .nil
  | cons o outcomes ih =>
    have hrest := ih fun o' ho' => h o' (List.mem_cons_of_mem _ ho')
    have hcons : SyncReport.ofOutcomes (o :: outcomes)
        = (SyncReport.ofOutcome o.1.name o.2).append (SyncReport.ofOutcomes outcomes) := rfl
    rw [hcons, List.map_cons]
    have hname := h o List.mem_cons_self
    cases ho : o.2 with
    | ok report =>
      obtain ⟨hsynced, hfailed⟩ := hname report ho
      simp only [SyncReport.ofOutcome, SyncReport.append, hsynced, hfailed, List.nil_append,
        List.cons_append]
      exact hrest.cons _
    | error e =>
      simp only [SyncReport.ofOutcome, SyncReport.ofFailure, SyncReport.append, SyncReport.empty,
        List.nil_append, List.singleton_append, List.map_cons]
      exact List.perm_middle.trans (hrest.cons _)

theorem names_syncDevice {d : Device} (honly : ∀ e, r.devices.get w.devices d.id = .ok e → e = d) :
    Names d.name (r.syncDevice d.id w).1 := by
  intro report hreport
  obtain ⟨i, device, hc⟩ := syncDevice_ok (Attempt.run_eq hreport)
  rw [hc.report_eq, honly i.device hc.stored]
  exact ⟨rfl, rfl⟩

/-- Operations that name their devices do so of every listing of these. -/
theorem names_of_perm {alone : Device → Attempt ReconcileError (World κ σ δ) SyncReport}
    {listing ds : List Device} (hperm : listing.Perm ds)
    (h : ∀ d ∈ ds, Names d.name (alone d w).1) :
    ∀ o ∈ listing.map (fun d => (d, (alone d w).1)), Names o.1.name o.2 := by
  intro o ho
  obtain ⟨d, hd, rfl⟩ := List.mem_map.1 ho
  exact h d (hperm.mem_iff.1 hd)

/-- A run over the devices `ds` from `w` to `w'` did for each of them what `alone` does for it: gave the
same outcome, and left the device the same. -/
structure Independent (r : Reconciler κ σ δ) (part : κ → String → τ)
    (alone : Device → Attempt ReconcileError (World κ σ δ) SyncReport) (ds : List Device)
    (w : World κ σ δ) (report : SyncReport) (w' : World κ σ δ) : Prop where
  once : (report.synced ++ report.failed.map Prod.fst).Perm (ds.map Device.name)
  outcomes : ∃ listing : List Device, listing.Perm ds ∧
    report = .ofOutcomes (listing.map fun d => (d, (alone d w).1))
  live : ∀ d ∈ ds, (r.gateway.read d.name w'.kernel).1 = (r.gateway.read d.name (alone d w).2.kernel).1
  left : ∀ d ∈ ds, r.Alike part d w' (alone d w).2
  devices : w'.devices = w.devices
  /-- What is done for one goes by nothing that is there of others. -/
  apart : ∀ d ∈ ds, Attempt.Agrees (r.Alike part d) (alone d)

section Independent

variable {alone : Device → Attempt ReconcileError (World κ σ δ) SyncReport} {ds listing : List Device}
  {w' : World κ σ δ}

/-- What was left of each device, and the names in the outcomes, are all there is to it. -/
theorem independent_of (hsep : r.gateway.Separate part) (hperm : listing.Perm ds)
    (hdevices : w'.devices = w.devices) (hleft : ∀ d ∈ ds, r.Alike part d w' (alone d w).2)
    (hnames : ∀ d ∈ ds, Names d.name (alone d w).1)
    (hagrees : ∀ d ∈ ds, Attempt.Agrees (r.Alike part d) (alone d)) :
    r.Independent part alone ds w (.ofOutcomes (listing.map fun d => (d, (alone d w).1))) w' where
  once := by
    have hnamed := names_ofOutcomes (names_of_perm hperm hnames)
    rw [List.map_map] at hnamed
    exact hnamed.trans (hperm.map Device.name)
  outcomes := ⟨listing, hperm, rfl⟩
  live d hd := ((hsep.read d.name).alike _ _ (hleft d hd).kernel).1
  left := hleft
  devices := hdevices
  apart := hagrees

/-- The same run, told by what another operation does for a device from another world. -/
theorem Independent.retold {alone' : Device → Attempt ReconcileError (World κ σ δ) SyncReport}
    {v : World κ σ δ} {report : SyncReport} (h : r.Independent part alone ds v report w')
    (hsep : r.gateway.Separate part) (hdevices : v.devices = w.devices)
    (hsame : ∀ d ∈ ds, (alone d v).1 = (alone' d w).1 ∧ r.Alike part d (alone d v).2 (alone' d w).2)
    (hagrees : ∀ d ∈ ds, Attempt.Agrees (r.Alike part d) (alone' d)) :
    r.Independent part alone' ds w report w' where
  once := h.once
  outcomes := by
    obtain ⟨listing, hperm, hreport⟩ := h.outcomes
    refine ⟨listing, hperm, hreport.trans (congrArg SyncReport.ofOutcomes ?_)⟩
    refine List.map_congr_left fun d hd => ?_
    rw [(hsame d (hperm.mem_iff.1 hd)).1]
  live d hd := (h.live d hd).trans ((hsep.read d.name).alike _ _ (hsame d hd).2.kernel).1
  left d hd := (h.left d hd).trans (hsame d hd).2
  devices := h.devices.trans hdevices
  apart := hagrees

/-- Two runs do the same for a device that both have, if they start alike for it. -/
theorem Independent.alike {es : List Device} {v v' : World κ σ δ} {report report' : SyncReport}
    {d : Device} (h : r.Independent part alone ds w report w')
    (h' : r.Independent part alone es v report' v') (hd : d ∈ ds) (hd' : d ∈ es)
    (hwv : r.Alike part d w v) :
    (alone d w).1 = (alone d v).1 ∧ r.Alike part d w' v' := by
  obtain ⟨houtcome, hafter⟩ := h.apart d hd w v hwv
  exact ⟨houtcome, ((h.left d hd).trans hafter).trans (h'.left d hd').symm⟩

theorem syncDevices_of_unlisted {e : StoreError} (h : r.devices.list w.devices .all = .error e) :
    r.syncDevices w = (.error (.store e), w) := by
  rw [syncDevices, Attempt.bind_of_error (ask_apply _ _ w |>.trans (by rw [h]; rfl))]

theorem syncDevices_of_listed {page : Page Device} (h : r.devices.list w.devices .all = .ok page) :
    r.syncDevices w = r.syncAll page.items w := by
  rw [syncDevices, Attempt.bind_of_ok (ask_apply _ _ w |>.trans (by rw [h]; rfl))]

/-- A pass over every stored device is for each of them a pass over that device. -/
theorem independent_syncDevices {Devices : δ → List Device → Prop} {page : Page Device}
    (hsep : r.gateway.Separate part) (hd : r.devices.Faithful Devices) (hds : Devices w.devices ds)
    (hnames : (ds.map Device.name).Nodup) (hlist : r.devices.list w.devices .all = .ok page) :
    ∃ report w', r.syncDevices w = (.ok report, w') ∧
      r.Independent part (fun d => r.syncDevice d.id) ds w report w' := by
  have hself : ∀ d ∈ ds, r.Alike part d w w := fun d h => alike_self hd hds h
  have hown := fun d => own_syncDevice hsep d
  obtain ⟨hresults, hafter⟩ := alone_of_listed hown hd hds hnames hlist
  refine ⟨_, _, (syncDevices_of_listed hlist).trans (syncAll_eq page.items w), ?_⟩
  rw [hresults]
  exact independent_of hsep (hd.list hds hlist) (devices_inTurn hown page.items w) hafter
    (fun d h => names_syncDevice (hself d h).only) fun _ _ => agrees_syncDevice hsep

end Independent

end Reconciler

end TunnelKeeper
