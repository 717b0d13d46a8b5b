import TunnelKeeper.Proofs.Daemon.Independence

/-!
# What a cycle tells of provisioning

A cycle provisions the interface of a device and runs a pass over the device, and its report is about the
pass (`Reported`). Provisioning counts for it through what it leaves of the interface, which is what the
pass starts from. A device without an interface fails its pass, so it is reported where its interface
could not be made. A device that has its interface already is synced by a pass that goes well, also if the
interface could not be given its settings: an attempt that changes nothing is not seen in the report
(`reported_ofCycle`).
-/

namespace TunnelKeeper

/-! ## The devices of a report -/

namespace SyncReport

variable {outcomes : List (Device × Except ReconcileError SyncReport)} {name : String}
  {e : ReconcileError}

theorem mem_synced_ofOutcomes (h : ∀ o ∈ outcomes, Reconciler.Names o.1.name o.2) :
    name ∈ (ofOutcomes outcomes).synced ↔
      ∃ o ∈ outcomes, o.1.name = name ∧ ∃ report, o.2 = .ok report := by
  induction outcomes with
  | nil => simp [ofOutcomes, join, empty]
  | cons o outcomes ih =>
    have hrest := ih fun o' ho' => h o' (List.mem_cons_of_mem _ ho')
    have hhead : name ∈ (ofOutcome o.1.name o.2).synced ↔
        o.1.name = name ∧ ∃ report, o.2 = .ok report := by
      have hname := h o List.mem_cons_self
      cases ho : o.2 with
      | ok report => simp [ofOutcome, (hname report ho).1, eq_comm]
      | error e => simp [ofOutcome, ofFailure, empty]
    rw [List.exists_mem_cons_iff, ← hrest, ← hhead]
    exact List.mem_append

theorem mem_failed_ofOutcomes (h : ∀ o ∈ outcomes, Reconciler.Names o.1.name o.2) :
    (name, e) ∈ (ofOutcomes outcomes).failed ↔
      ∃ o ∈ outcomes, o.1.name = name ∧ o.2 = .error e := by
  induction outcomes with
  | nil => simp [ofOutcomes, join, empty]
  | cons o outcomes ih =>
    have hrest := ih fun o' ho' => h o' (List.mem_cons_of_mem _ ho')
    have hhead : (name, e) ∈ (ofOutcome o.1.name o.2).failed ↔
        o.1.name = name ∧ o.2 = .error e := by
      have hname := h o List.mem_cons_self
      cases ho : o.2 with
      | ok report => simp [ofOutcome, (hname report ho).2]
      | error e' => simp [ofOutcome, ofFailure, empty, eq_comm]
    rw [List.exists_mem_cons_iff, ← hrest, ← hhead]
    exact List.mem_append

end SyncReport

namespace Reconciler

variable {κ σ δ τ ε : Type} {r : Reconciler κ σ δ} {part : κ → String → τ} {d : Device}
  {ds : List Device} {id : Uuid} {w w' : World κ σ δ} {report : SyncReport}

/-! ## Passes that succeed -/

/-- The input of a pass over the device `id` can be read, and the kernel takes the changes that it calls
for, if there are any. -/
def Ready (r : Reconciler κ σ δ) (id : Uuid) (w : World κ σ δ) : Prop :=
  ∃ i, r.Reads id w i ∧ (i.changes = [] ∨
    (r.gateway.configure i.device.name i.changes (r.gateway.read i.device.name w.kernel).2).1 = .ok ())

/-- That is what it takes for a pass to succeed. -/
theorem syncDevice_ok_iff : (∃ report, (r.syncDevice id w).1 = .ok report) ↔ r.Ready id w := by
  constructor
  · rintro ⟨report, h⟩
    obtain ⟨i, device, hc⟩ := syncDevice_ok (Attempt.run_eq h)
    refine ⟨i, hc.toReads, ?_⟩
    rcases hc.sent with ⟨hnone, -⟩ | ⟨-, hsent⟩
    · exact .inl hnone
    · exact .inr (by rw [hsent])
  · rintro ⟨i, hreads, htaken⟩
    obtain ⟨w', hpass⟩ := pass_ok_of_taken hreads htaken
    exact ⟨_, by rw [syncDevice_of_pass hpass]⟩

/-! ## Provisioning -/

/-- What there is after an interface was provisioned, or could not be. -/
def afterProvision (r : Reconciler κ σ δ) (d : Device) (w : World κ σ δ) : World κ σ δ :=
  ((r.provision d : Attempt Empty (World κ σ δ) Bool) w).2

theorem turn_eq (r : Reconciler κ σ δ) (d : Device) (w : World κ σ δ) :
    r.turn d w = r.syncDevice d.id (r.afterProvision d w) := rfl

/-- Only the kernel can be another one. -/
theorem afterProvision_of_settings {settings : InterfaceSettings} (h : d.settings = .ok settings) :
    r.afterProvision d w
      = { w with kernel := (r.gateway.provision d.name settings w.kernel).2 } := by
  unfold afterProvision provision
  rw [h]
  show (onKernel (fun e => e) (r.gateway.provision d.name settings) w).2 = _
  rw [onKernel_apply]

theorem devices_afterProvision (r : Reconciler κ σ δ) (d : Device) (w : World κ σ δ) :
    (r.afterProvision d w).devices = w.devices := by
  cases h : d.settings with
  | error e =>
    unfold afterProvision provision
    rw [h]
    rfl
  | ok settings => rw [afterProvision_of_settings h]

theorem names_turn (honly : ∀ e, r.devices.get w.devices d.id = .ok e → e = d) :
    Names d.name (r.turn d w).1 := by
  rw [turn_eq]
  refine names_syncDevice fun e he => honly e ?_
  rwa [devices_afterProvision] at he

/-- A device without an address has no settings either, and no pass over it succeeds. -/
theorem not_ready_of_settings {e : DeviceError} (h : d.settings = .error e)
    (honly : ∀ e, r.devices.get w.devices d.id = .ok e → e = d) : ¬ r.Ready d.id w := by
  rintro ⟨i, hreads, -⟩
  have hbase := hreads.base
  rw [honly _ hreads.stored] at hbase
  obtain ⟨block, hnet, -⟩ := Device.spec_initialPool hbase
  unfold Device.settings at h
  rw [hnet] at h
  cases h

/-- A pass fails with the error that the interface is read with. -/
theorem syncDevice_of_unread {k : κ} {e : KernelError} (h : r.devices.get w.devices id = .ok d)
    (hread : r.gateway.read d.name w.kernel = (.error e, k)) :
    (r.syncDevice id w).1 = .error (.kernel e) := by
  have hpass : r.pass id w = (.error (.kernel e), { w with kernel := k }) := by
    unfold pass
    rw [Attempt.bind_of_ok (ask_eq_ok.2 ⟨h, rfl⟩), Attempt.bind_of_error (onKernel_of_error hread)]
  unfold syncDevice
  rw [Attempt.bind_of_ok (Attempt.capture_apply (r.pass id) w), hpass]
  rfl

/-! ## The report on a device -/

/-- The report tells how a pass over the device comes out that starts from `w`. -/
structure Reported (r : Reconciler κ σ δ) (d : Device) (w : World κ σ δ) (report : SyncReport) : Prop where
  synced : d.name ∈ report.synced ↔ r.Ready d.id w
  failed : ∀ e, (d.name, e) ∈ report.failed ↔ (r.syncDevice d.id w).1 = .error e

theorem Reported.failed_iff (h : r.Reported d w report) :
    (∃ e, (d.name, e) ∈ report.failed) ↔ ¬ r.Ready d.id w := by
  rw [← syncDevice_ok_iff]
  cases hrun : (r.syncDevice d.id w).1 with
  | ok report' => simp [h.failed, hrun]
  | error e => simp [h.failed, hrun]

/-- A run reports on a device what it would report on it alone. -/
theorem Independent.reported {alone : Device → Attempt ReconcileError (World κ σ δ) SyncReport}
    {v : World κ σ δ} (h : r.Independent part alone ds w report w')
    (hnames : (ds.map Device.name).Nodup) (hown : ∀ d ∈ ds, Names d.name (alone d w).1)
    (hd : d ∈ ds) (halone : (alone d w).1 = (r.syncDevice d.id v).1) : r.Reported d v report := by
  obtain ⟨listing, hperm, rfl⟩ := h.outcomes
  have hlisted := names_of_perm hperm hown
  -- Of the outcomes, the device's own is the only one under its name.
  have hmine : ∀ P : Except ReconcileError SyncReport → Prop,
      (∃ o ∈ listing.map (fun d => (d, (alone d w).1)), o.1.name = d.name ∧ P o.2) ↔
        P (r.syncDevice d.id v).1 := by
    intro P
    rw [← halone]
    constructor
    · rintro ⟨o, ho, hname, hP⟩
      obtain ⟨d', hd', rfl⟩ := List.mem_map.1 ho
      rwa [← List.inj_on_of_nodup_map hnames (hperm.mem_iff.1 hd') hd hname]
    · exact fun hP => ⟨_, List.mem_map_of_mem (hperm.mem_iff.2 hd), rfl, hP⟩
  constructor
  · rw [SyncReport.mem_synced_ofOutcomes hlisted, hmine (fun o => ∃ report, o = .ok report),
      syncDevice_ok_iff]
  · intro e
    rw [SyncReport.mem_failed_ofOutcomes hlisted, hmine (· = .error e)]

end Reconciler

/-! ## Cycles -/

namespace Daemon

open Reconciler (Ready Reported)

variable {κ τ : Type} {part : κ → String → τ} {g : Gateway κ} {config config' : Config} {d : Device}
  {w w' v : World κ FilePeers MemoryDevices} {report : SyncReport}

theorem Configured.only (h : Configured config w) (hd : d ∈ config.devices) :
    ∀ e, (reconciler g config).devices.get w.devices d.id = .ok e → e = d :=
  fun _ he => Except.ok.inj (he.symm.trans (h.holds.get hd))

/-- A cycle reports on a device the pass over it that comes after its provisioning, from whatever world
that pass comes out the same. -/
theorem Configured.reported (h : Configured config w)
    (hindep : (reconciler g config).Independent part (reconciler g config).turn config.devices w
      report w') (hd : d ∈ config.devices)
    (hturn : ((reconciler g config).turn d w).1 = ((reconciler g config).syncDevice d.id v).1) :
    (reconciler g config).Reported d v report :=
  hindep.reported (Config.nodup_of_accepted h.accepted).1
    (fun _ he => Reconciler.names_turn (h.only he)) hd hturn

/-- A run of a single cycle ends well if and only if every device was synced. -/
theorem outcome_iff {start : Device → World κ FilePeers MemoryDevices}
    (honce : (report.synced ++ report.failed.map Prod.fst).Perm (config.devices.map Device.name))
    (hreported : ∀ d ∈ config.devices, (reconciler g config).Reported d (start d) report) :
    outcome (some report) = .ok () ↔
      ∀ d ∈ config.devices, (reconciler g config).Ready d.id (start d) := by
  have hempty : outcome (some report) = .ok () ↔ report.failed = [] := by
    cases hf : report.failed with
    | nil => simp [outcome, hf]
    | cons f fs => simp [outcome, hf]
  rw [hempty]
  constructor
  · intro hnone d hd
    by_contra hready
    obtain ⟨e, he⟩ := (hreported d hd).failed_iff.2 hready
    rw [hnone] at he
    cases he
  · intro hready
    refine List.eq_nil_iff_forall_not_mem.2 fun ⟨name, e⟩ hfailed => ?_
    have hname : name ∈ config.devices.map Device.name :=
      honce.mem_iff.1 (List.mem_append_right _ (List.mem_map_of_mem hfailed))
    obtain ⟨d, hd, rfl⟩ := List.mem_map.1 hname
    exact (hreported d hd).failed_iff.1 ⟨e, hfailed⟩ (hready d hd)

/-- A cycle reports each device once: as synced, if the pass over it succeeds on what its provisioning has
left, and as failed with the error of that pass otherwise. So a device without an address is reported, and
so is one that could not be provisioned and whose interface cannot be read then; but an attempt at
provisioning that fails without an effect on the interface changes nothing of the report. What is
reported of a device depends on nothing of the others. A run of a single cycle ends well if and only if
every pass succeeds. -/
theorem reported_ofCycle (hsep : g.Separate part) (h : Configured config w) :
    let r := reconciler g config
    ∃ report w', Running.ofCycle r w = ⟨r, w', some report⟩ ∧ Configured config w' ∧
      (report.synced ++ report.failed.map Prod.fst).Perm (config.devices.map Device.name) ∧
      (∀ d ∈ config.devices,
        r.Reported d (r.afterProvision d w) report ∧
        (∀ e, d.settings = .error e → ∃ e', (d.name, e') ∈ report.failed) ∧
        (∀ settings e k, d.settings = .ok settings →
          g.provision d.name settings w.kernel = (.error e, k) →
            (∀ e', (g.read d.name k).1 = .error e' → (d.name, .kernel e') ∈ report.failed) ∧
            (part k d.name = part w.kernel d.name → r.Reported d w report)) ∧
        ∀ config' v report' v', Configured config' v → config'.policy = config.policy →
          d ∈ config'.devices → SameFor part d w v →
            Running.ofCycle (reconciler g config') v = ⟨reconciler g config', v', some report'⟩ →
              (d.name ∈ report'.synced ↔ d.name ∈ report.synced) ∧
                ∀ e, (d.name, e) ∈ report'.failed ↔ (d.name, e) ∈ report.failed) ∧
      ∀ o : Options, o.once = true → (Running.outcome ⟨r, w', some report⟩ o = .ok () ↔
        ∀ d ∈ config.devices, r.Ready d.id (r.afterProvision d w)) := by
  intro r
  obtain ⟨report, w', hcycle, hindep⟩ := independent_ofCycle hsep h
  have hreported : ∀ d ∈ config.devices, r.Reported d (r.afterProvision d w) report :=
    fun d hd => h.reported hindep hd rfl
  have honly : ∀ d ∈ config.devices,
      ∀ e, r.devices.get (r.afterProvision d w).devices d.id = .ok e → e = d := by
    intro d hd
    rw [Reconciler.devices_afterProvision]
    exact h.only hd
  refine ⟨report, w', hcycle, h.of_devices hindep.devices, hindep.once, ?_, ?_⟩
  · intro d hd
    refine ⟨hreported d hd, ?unsettled, ?refused, ?others⟩
    case unsettled =>
      exact fun e he =>
        (hreported d hd).failed_iff.2 (Reconciler.not_ready_of_settings he (honly d hd))
    case refused =>
      intro settings e k hsettings hrefused
      have hafter : r.afterProvision d w = { w with kernel := k } := by
        rw [Reconciler.afterProvision_of_settings hsettings]
        exact congrArg (fun k => { w with kernel := k }) (congrArg Prod.snd hrefused)
      constructor
      · intro e' hread
        refine ((hreported d hd).failed _).2 ?_
        rw [hafter]
        exact Reconciler.syncDevice_of_unread (h.holds.get hd) (Attempt.run_eq hread)
      · intro hsame
        refine h.reported hindep hd ?_
        have halike : r.Alike part d { w with kernel := k } w :=
          ⟨rfl, h.only hd, rfl, hsame, rfl⟩
        rw [Reconciler.turn_eq, show (reconciler g config).afterProvision d w = _ from hafter]
        exact (Reconciler.agrees_syncDevice hsep _ _ halike).1
    case others =>
      intro config' v report' v' h' hpolicy hd' hsame hcycle'
      obtain ⟨report'', v'', hcycle'', hindep'⟩ := independent_ofCycle hsep h'
      rw [hcycle''] at hcycle'
      obtain ⟨-, rfl, hreport⟩ := (Running.mk.injEq ..).mp hcycle'
      obtain rfl := Option.some.inj hreport
      have hdaemon : reconciler g config' = reconciler g config := by
        rw [reconciler, hpolicy, reconciler]
      rw [hdaemon] at hindep'
      have hturn := (hindep.alike hindep' hd hd' (hsame.alike h h' hd hd')).1
      have hreported' : r.Reported d (r.afterProvision d w) report'' :=
        hindep'.reported (Config.nodup_of_accepted h'.accepted).1
          (fun _ he => Reconciler.names_turn (h'.only (g := g) he)) hd' hturn.symm
      exact ⟨hreported'.synced.trans (hreported d hd).synced.symm,
        fun e => (hreported'.failed e).trans ((hreported d hd).failed e).symm⟩
  · intro o ho
    unfold Running.outcome
    rw [if_pos ho]
    exact outcome_iff hindep.once hreported

end Daemon

/-- Settings that the kernel in memory refuses have no effect on its interfaces. -/
theorem MemoryKernel.part_of_refused {k k' : MemoryKernel} {name : String} {settings : InterfaceSettings}
    {e : KernelError} (h : gateway.provision name settings k = (.error e, k')) : part k' = part k := by
  simp only [gateway, call] at h
  split at h
  · obtain ⟨-, rfl⟩ := Prod.mk.inj h
    rfl
  · cases h

/-! ## A kernel that refuses settings -/

namespace Sample

/-- A kernel with these interfaces that takes no settings for any. -/
def busyKernel (interfaces : List Snapshot) : MemoryKernel :=
  (MemoryKernel.ofTable (.ofList interfaces)).setFault .provision
    (some ⟨.provision, none, fun _ => .io "busy"⟩)

theorem refused_busyKernel (interfaces : List Snapshot) (name : String) (settings : InterfaceSettings) :
    ∃ k, MemoryKernel.gateway.provision name settings (busyKernel interfaces) = (.error (.io "busy"), k) ∧
      k.part = (busyKernel interfaces).part := by
  have hrefused : (MemoryKernel.gateway.provision name settings (busyKernel interfaces)).1
      = .error (.io "busy") := rfl
  exact ⟨_, Attempt.run_eq hrefused, MemoryKernel.part_of_refused (Attempt.run_eq hrefused)⟩

/-- Two devices, and one peer of the first. -/
def busyState (interfaces : List Snapshot) : World MemoryKernel FilePeers MemoryDevices :=
  { pairState [] with kernel := busyKernel interfaces }

theorem configured_busyState (interfaces : List Snapshot) :
    Daemon.Configured pairConfig (busyState interfaces) :=
  Daemon.configured_start parse_pairText (start_pairState _)

/-- A run of a single cycle. -/
def onceOptions : Options := ⟨CommandLine.defaultConfig, CommandLine.defaultInterval, true⟩

/-- The first device has its interface and is synced, and the second has none and is reported. -/
theorem reported_ofCycle_busy :
    ∃ report w', Daemon.Running.ofCycle pairDaemon (busyState [interface []])
        = ⟨pairDaemon, w', some report⟩ ∧
      device.name ∈ report.synced ∧
      (spare.name, .kernel (.deviceNotFound spare.name)) ∈ report.failed ∧
      Daemon.Running.outcome ⟨pairDaemon, w', some report⟩ onceOptions ≠ .ok () := by
  obtain ⟨report, w', hcycle, -, -, hdevices, houtcome⟩ :=
    Daemon.reported_ofCycle MemoryKernel.separate (configured_busyState [interface []])
  obtain ⟨-, -, hdevice, -⟩ := hdevices device List.mem_cons_self
  obtain ⟨hspare, -, hrefused, -⟩ := hdevices spare (List.mem_cons_of_mem _ List.mem_cons_self)
  have hsettings : device.settings.toBool = true ∧ spare.settings.toBool = true := by decide +kernel
  cases hd : device.settings with
  | error e => rw [hd] at hsettings; cases hsettings.1
  | ok s =>
  cases he : spare.settings with
  | error e => rw [he] at hsettings; cases hsettings.2
  | ok t =>
  obtain ⟨k, hk, hspared⟩ := refused_busyKernel [interface []] device.name s
  obtain ⟨k', hk', hspared'⟩ := refused_busyKernel [interface []] spare.name t
  have hunseen := (hdevice s _ k hd hk).2 (congrFun hspared _)
  have hread : (MemoryKernel.gateway.read spare.name (busyKernel [interface []])).1
      = .error (.deviceNotFound spare.name) := by decide +kernel
  have hunread := (hrefused t _ k' he hk').1 _
    (((MemoryKernel.separate.read spare.name).alike _ _ (congrFun hspared' _)).1.trans hread)
  have hready : ∃ report, (pairDaemon.syncDevice device.id (busyState [interface []])).1 = .ok report :=
    ⟨_, rfl⟩
  refine ⟨report, w', hcycle, hunseen.synced.2 (Reconciler.syncDevice_ok_iff.1 hready), hunread, ?_⟩
  intro hok
  exact hspare.failed_iff.1 ⟨_, hunread⟩ ((houtcome onceOptions rfl).1 hok spare
    (List.mem_cons_of_mem _ List.mem_cons_self))

/-- Both devices have their interfaces, neither takes its settings, and the run ends well. -/
theorem unprovisioned_synced :
    let w := busyState [interface [], { interface [] with name := spare.name }]
    (∀ d ∈ pairConfig.devices,
      ((pairDaemon.provision d : Attempt Empty (World MemoryKernel FilePeers MemoryDevices) Bool) w).1
        = .ok false) ∧
    (Daemon.Running.ofCycle pairDaemon w).report.map (fun r => (r.synced, r.failed))
      = some ([device.name, spare.name], []) ∧
    ((Daemon.Running.ofCycle pairDaemon w).outcome onceOptions).toBool = true := by
  decide +kernel

end Sample

end TunnelKeeper
