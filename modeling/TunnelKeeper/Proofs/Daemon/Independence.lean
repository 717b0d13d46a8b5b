import TunnelKeeper.Daemon.Run
import TunnelKeeper.Proofs.InMemory
import TunnelKeeper.Proofs.Reconcile.Independence
import TunnelKeeper.Proofs.Store.StateFile

/-!
# The daemon keeps its devices apart

A cycle first provisions every interface and then runs a pass over every device. What is done in either
round for one device is about that device alone (`own_provision`, `own_syncDevice`), so the two rounds
come to what `turn` does for each device, which provisions it and then runs its pass
(`independent_cycle`). All that this needs of the configuration is what was checked of it: no name and
no identifier is there twice (`Config.nodup_of_accepted`). So it is true of every daemon that starts
(`Daemon.configured_start`).
-/

namespace TunnelKeeper

/-! ## Configurations -/

/-- Devices that are not refused repeat neither each other nor those before them. -/
theorem Config.apart_of_repetition? {earlier ds : List Device}
    (h : repetition? earlier ds = none) :
    ds.Pairwise (fun d e => d.name ≠ e.name ∧ d.id ≠ e.id) ∧
      ∀ e ∈ earlier, ∀ d ∈ ds, e.name ≠ d.name ∧ e.id ≠ d.id := by
  induction ds generalizing earlier with
  | nil => exact ⟨.nil, fun _ _ d hd => absurd hd List.not_mem_nil⟩
  | cons d ds ih =>
    unfold repetition? at h
    split at h
    · cases h
    · rename_i hname
      split at h
      · cases h
      · rename_i hid
        simp only [List.any_eq_true, decide_eq_true_eq, not_exists, not_and] at hname hid
        obtain ⟨hpairs, hrest⟩ := ih h
        refine ⟨List.pairwise_cons.2 ⟨hrest d List.mem_cons_self, hpairs⟩, fun e he b hb => ?_⟩
        rcases List.mem_cons.1 hb with rfl | hb
        · exact ⟨hname e he, hid e he⟩
        · exact hrest e (List.mem_cons_of_mem _ he) b hb

theorem Config.nodup_of_accepted {ds : List Device} (h : repetition? [] ds = none) :
    (ds.map Device.name).Nodup ∧ (ds.map Device.id).Nodup := by
  obtain ⟨hpairs, -⟩ := apart_of_repetition? h
  exact ⟨List.pairwise_map.2 (hpairs.imp And.left), List.pairwise_map.2 (hpairs.imp And.right)⟩

namespace Reconciler

open Attempt (Agrees)

variable {κ σ δ τ ε : Type} {r : Reconciler κ σ δ} {part : κ → String → τ} {d : Device}
  {ds : List Device} {w : World κ σ δ}

/-! ## Rounds of a cycle -/

theorem own_provision (hsep : r.gateway.Separate part) (d : Device) :
    r.Own part d (r.provision d : Attempt ε (World κ σ δ) Bool) := by
  unfold provision
  cases d.settings with
  | error e => exact .pure false
  | ok settings => exact (own_onKernel (hsep.provision d.name settings)).capture.bind fun _ => .pure _

/-- Whether an interface could be provisioned is a result; it is never an error. -/
theorem provision_ok (d : Device) (w : World κ σ δ) :
    ∃ worked, (r.provision d : Attempt ε (World κ σ δ) Bool) w
      = (.ok worked, ((r.provision d : Attempt ε (World κ σ δ) Bool) w).2) := by
  unfold provision
  cases d.settings with
  | error e => exact ⟨false, rfl⟩
  | ok settings => exact ⟨_, rfl⟩

theorem provisionDevices_ok (ds : List Device) (w : World κ σ δ) :
    ∃ count, (r.provisionDevices ds : Attempt ε (World κ σ δ) Nat) w
      = (.ok count, (inTurn (fun d => (r.provision d : Attempt ε (World κ σ δ) Bool)) ds w).2) := by
  induction ds generalizing w with
  | nil => exact ⟨0, rfl⟩
  | cons d ds ih =>
    obtain ⟨worked, hfirst⟩ := provision_ok d w
    obtain ⟨others, hrest⟩ := ih ((r.provision d : Attempt ε (World κ σ δ) Bool) w).2
    refine ⟨if worked then others + 1 else others, ?_⟩
    rw [provisionDevices, Attempt.bind_of_ok hfirst, Attempt.bind_of_ok hrest]
    rfl

theorem provisionAll_of_listed {page : Page Device} (h : r.devices.list w.devices .all = .ok page) :
    (r.provisionAll : Attempt ε (World κ σ δ) Nat) w
      = (r.provisionDevices page.items : Attempt ε (World κ σ δ) Nat) w := by
  rw [provisionAll, Attempt.bind_of_ok (Attempt.get_apply w)]
  simp only [h]

/-- What a cycle comes to for one device: its interface is provisioned, and then a pass runs over it. -/
def turn (r : Reconciler κ σ δ) (d : Device) : Attempt ReconcileError (World κ σ δ) SyncReport :=
  fun w => r.syncDevice d.id ((r.provision d : Attempt Empty (World κ σ δ) Bool) w).2

theorem agrees_turn (hsep : r.gateway.Separate part) (d : Device) :
    Agrees (r.Alike part d) (r.turn d) := by
  intro w v h
  have hprovision := (own_provision (ε := Empty) hsep d).agrees w v h
  exact agrees_syncDevice hsep _ _ hprovision.2

/-- A cycle is for each stored device its own turn. -/
theorem independent_cycle {Devices : δ → List Device → Prop} {page : Page Device}
    (hsep : r.gateway.Separate part) (hd : r.devices.Faithful Devices) (hds : Devices w.devices ds)
    (hnames : (ds.map Device.name).Nodup) (hlist : r.devices.list w.devices .all = .ok page) :
    ∃ report w', (r.cycle : Attempt Empty (World κ σ δ) (Option SyncReport)) w
        = (.ok (some report), w') ∧
      r.Independent part r.turn ds w report w' := by
  have hown := fun d => own_provision (ε := Empty) hsep d
  obtain ⟨count, hprovision⟩ := provisionDevices_ok (r := r) (ε := Empty) page.items w
  have hsame := devices_inTurn hown page.items w
  obtain ⟨-, hprovisioned⟩ := alone_of_listed hown hd hds hnames hlist
  generalize (inTurn (fun d => r.provision d) page.items w).2 = v at *
  rw [← hsame] at hds hlist
  obtain ⟨report, w', hsync, hindep⟩ := independent_syncDevices hsep hd hds hnames hlist
  refine ⟨report, w', ?_, hindep.retold hsep hsame (fun d hmem => ?_) fun d _ => agrees_turn hsep d⟩
  · rw [hsame] at hlist
    rw [cycle, Attempt.bind_of_ok ((provisionAll_of_listed hlist).trans hprovision),
      Attempt.bind_of_ok (Attempt.capture_apply r.syncDevices v), hsync]
    rfl
  · exact agrees_syncDevice hsep _ _ (hprovisioned d hmem)

end Reconciler

/-! ## Worlds of the daemon -/

namespace Daemon

variable {κ τ : Type} {part : κ → String → τ} {g : Gateway κ} {config config' : Config} {d : Device}
  {w v : World κ FilePeers MemoryDevices}

/-- The daemon has the devices of a configuration that was accepted. -/
structure Configured (config : Config) (w : World κ FilePeers MemoryDevices) : Prop where
  accepted : Config.repetition? [] config.devices = none
  devices : w.devices = .ofList config.devices

/-- The daemon starts like that. -/
theorem configured_start {text : String} {kernel : κ} {state : FileEntry}
    (hparse : Config.parse text = .ok config) (hstart : start kernel config state = .ok w) :
    Configured config w where
  accepted := by
    unfold Config.parse at hparse
    split at hparse
    · cases hparse
    · split at hparse
      · cases hparse
      · rename_i hrep
        rwa [Except.ok.inj hparse] at hrep
  devices := by
    unfold start at hstart
    cases hopen : FilePeers.openAt (.ofEntry state) with
    | error e =>
      rw [hopen] at hstart
      cases hstart
    | ok peers =>
      rw [hopen] at hstart
      rw [← Except.ok.inj hstart]

/-- It keeps the devices, whatever becomes of the rest. -/
theorem Configured.of_devices (h : Configured config w) (hsame : v.devices = w.devices) :
    Configured config v := ⟨h.accepted, hsame.trans h.devices⟩

theorem Configured.holds (h : Configured config w) :
    MemoryDevices.Holds w.devices config.devices := by
  obtain ⟨-, hids⟩ := Config.nodup_of_accepted h.accepted
  exact ⟨by rw [h.devices, MemoryDevices.ofList_eq hids], hids⟩

/-- The daemons have the same of a device: the rows that belong to it, its interface, and what is
registered of it. -/
structure SameFor (part : κ → String → τ) (d : Device) (w v : World κ FilePeers MemoryDevices) :
    Prop where
  rows : w.peers.rows.filter (PeerRow.isOf (some d.id))
    = v.peers.rows.filter (PeerRow.isOf (some d.id))
  kernel : part w.kernel d.name = part v.kernel d.name
  registered : w.registry[d.id]? = v.registry[d.id]?

/-- Then their worlds are alike for the device, whatever other devices either of them has. -/
theorem SameFor.alike (h : SameFor part d w v) (hw : Configured config w)
    (hv : Configured config' v) (hd : d ∈ config.devices) (hd' : d ∈ config'.devices) :
    (reconciler g config).Alike part d w v where
  stored := (hw.holds.get hd).trans (hv.holds.get hd').symm
  only _ he := Except.ok.inj (he.symm.trans (hw.holds.get hd))
  listed := PeerRow.select_congr h.rows
  kernel := h.kernel
  registered := h.registered

theorem independent_ofCycle (hsep : g.Separate part) (h : Configured config w) :
    ∃ report w', Running.ofCycle (reconciler g config) w = ⟨reconciler g config, w', some report⟩ ∧
      (reconciler g config).Independent part (reconciler g config).turn config.devices w report w' := by
  obtain ⟨hnames, -⟩ := Config.nodup_of_accepted h.accepted
  obtain ⟨report, w', hcycle, hindep⟩ := Reconciler.independent_cycle (r := reconciler g config) hsep
    MemoryDevices.faithful h.holds hnames rfl
  refine ⟨report, w', ?_, hindep⟩
  unfold Running.ofCycle
  rw [hcycle]
  rfl

end Daemon

/-- Devices are independent: a run over all of them does for each what is done for it alone, and so does
a cycle of the daemon under any accepted configuration. There, two daemons with one policy do the
same for a device of which they have the same, whatever their other devices are. A cycle leaves the
devices as they are configured, so this holds of the next cycle too. -/
theorem devices_independent {κ σ δ τ : Type} {r : Reconciler κ σ δ} {part : κ → String → τ}
    {Devices : δ → List Device → Prop} {w : World κ σ δ} {ds : List Device}
    (hsep : r.gateway.Separate part) (hd : r.devices.Faithful Devices) (hds : Devices w.devices ds)
    (hnames : (ds.map Device.name).Nodup) :
    (∀ e, r.devices.list w.devices .all = .error e → r.syncDevices w = (.error (.store e), w)) ∧
    (∀ page, r.devices.list w.devices .all = .ok page →
      ∃ report w', r.syncDevices w = (.ok report, w') ∧
        r.Independent part (fun d => r.syncDevice d.id) ds w report w') ∧
    ∀ config u, Daemon.Configured config u →
      let daemon := Daemon.reconciler r.gateway config
      ∃ report u', Daemon.Running.ofCycle daemon u = ⟨daemon, u', some report⟩ ∧
        Daemon.Configured config u' ∧
        daemon.Independent part daemon.turn config.devices u report u' ∧
        ∀ config' v, Daemon.Configured config' v → config'.policy = config.policy →
          ∀ d ∈ config.devices, d ∈ config'.devices → Daemon.SameFor part d u v →
            (daemon.turn d u).1 = (daemon.turn d v).1 ∧
            daemon.Alike part d u'
              (Daemon.Running.ofCycle (Daemon.reconciler r.gateway config') v).world := by
  refine ⟨fun e h => Reconciler.syncDevices_of_unlisted h,
    fun page h => Reconciler.independent_syncDevices hsep hd hds hnames h, fun config u hu => ?_⟩
  obtain ⟨report, u', hcycle, hindep⟩ := Daemon.independent_ofCycle hsep hu
  refine ⟨report, u', hcycle, hu.of_devices hindep.devices, hindep, ?_⟩
  intro config' v hv hpolicy d hmem hmem' hsame
  obtain ⟨report', v', hcycle', hindep'⟩ := Daemon.independent_ofCycle hsep hv
  have hdaemon : Daemon.reconciler r.gateway config' = Daemon.reconciler r.gateway config := by
    rw [Daemon.reconciler, hpolicy, Daemon.reconciler]
  rw [hdaemon] at hindep' hcycle' ⊢
  rw [hcycle']
  exact hindep.alike hindep' hmem hmem' (hsame.alike hu hv hmem hmem')

/-! ## A device without an interface, and one with a row that cannot be read -/

namespace Sample

open Reconciler

/-- A second device. -/
def spare : Device :=
  { Device.new (uuid 9) "wg1" (key 9) with
    endpoint := "vpn.example.org:51821"
    address := "10.0.1.1/24" }

/-- The second device has no interface. -/
def pairWorld : World MemoryKernel MemoryPeers MemoryDevices :=
  memoryWorld (interface []) [device, spare] [peer 1 true ["10.0.0.2/32"]]

def pairReport : SyncReport :=
  ⟨[device.name], [(spare.name, .kernel (.deviceNotFound spare.name))], [uuid 1], [], [], []⟩

def pairConfig : Config := ⟨Config.defaultStateFile, .default, [device, spare]⟩

/-- The line of a text in a configuration. -/
def configLine (name : String) (text : List Char) : List Char :=
  name.toList ++ " = \"".toList ++ text ++ "\"\n".toList

/-- The table of a device in a configuration. -/
def configTable (d : Device) : List Char :=
  "[[devices]]\n".toList ++ configLine "id" d.id.chars ++ configLine "name" d.name.toList
    ++ configLine "private_key" d.privateKey.chars ++ "listen_port = 0\n".toList
    ++ configLine "address" d.address.toList ++ configLine "endpoint" d.endpoint.toList

/-- The file that configures both devices. -/
def pairText : String := .ofList (configTable device ++ configTable spare)

theorem parse_pairText : Config.parse pairText = .ok pairConfig := by
  rw [Config.parse, Toml.parse?, pairText, String.toList_ofList]
  decide +kernel

def pairDaemon : Reconciler MemoryKernel FilePeers MemoryDevices :=
  Daemon.reconciler MemoryKernel.gateway pairConfig

/-- A row of the second device that cannot be read. -/
def spoiledRow : PeerRow :=
  { (peer 2 true ["10.0.1.2/32"]).toRow with
    deviceId := spare.id.text
    publicKey := "none" }

/-- A row of the first device. -/
def pairRow : PeerRow := (peer 1 true ["10.0.0.2/32"]).toRow

/-- The state file that the daemon finds. -/
def pairFile : FileEntry := .text (StateFile.write [pairRow])

/-- The row that the daemon found, and `rows` besides. -/
def pairState (rows : List PeerRow) : World MemoryKernel FilePeers MemoryDevices :=
  ⟨.ofTable (.ofList [interface []]), ⟨pairRow :: rows, .ofEntry pairFile⟩, .ofList [device, spare], ∅⟩

theorem start_pairState (kernel : MemoryKernel) :
    Daemon.start kernel pairConfig pairFile = .ok { pairState [] with kernel } := by
  have hopen : FilePeers.openAt (.ofEntry pairFile) = .ok (pairState []).peers :=
    (FilePeers.mirrored_write (List.forall_mem_singleton.2 ⟨_, PeerRow.toPeer_toRow _⟩)).openAt
  rw [Daemon.start, hopen]
  rfl

theorem configured_pairState (rows : List PeerRow) : Daemon.Configured pairConfig (pairState rows) :=
  (Daemon.configured_start parse_pairText (start_pairState (pairState []).kernel)).of_devices rfl

theorem devices_independent_pair :
    (∃ w', (inMemory .default).syncDevices pairWorld = (.ok pairReport, w') ∧
      (inMemory .default).Independent MemoryKernel.part
        (fun d => (inMemory .default).syncDevice d.id) [device, spare] pairWorld pairReport w') ∧
    ∃ report w', Daemon.Running.ofCycle pairDaemon (pairState []) = ⟨pairDaemon, w', some report⟩ ∧
      report.synced = [device.name, spare.name] ∧
      (Daemon.Running.ofCycle pairDaemon (pairState [spoiledRow])).report.map SyncReport.synced
        = some [device.name] ∧
      (pairDaemon.turn device (pairState [])).1
        = (pairDaemon.turn device (pairState [spoiledRow])).1 := by
  have hholds : MemoryDevices.Holds pairWorld.devices [device, spare] := ⟨rfl, by decide⟩
  obtain ⟨-, hlisted, hdaemon⟩ := devices_independent (r := inMemory .default)
    MemoryKernel.separate MemoryDevices.faithful hholds (by decide)
  constructor
  · have hrun : ((inMemory .default).syncDevices pairWorld).1 = .ok pairReport := by
      decide +kernel
    obtain ⟨report, w', hsync, hindep⟩ := hlisted _ rfl
    rw [hsync] at hrun
    obtain rfl := Except.ok.inj hrun
    exact ⟨w', hsync, hindep⟩
  · have hrun : (Daemon.Running.ofCycle pairDaemon (pairState [])).report.map SyncReport.synced
        = some [device.name, spare.name] := by decide +kernel
    have hspoiled :
        (Daemon.Running.ofCycle pairDaemon (pairState [spoiledRow])).report.map SyncReport.synced
          = some [device.name] := by decide +kernel
    have hrows : Daemon.SameFor MemoryKernel.part device (pairState []) (pairState [spoiledRow]) :=
      ⟨by decide +kernel, rfl, rfl⟩
    obtain ⟨report, w', hcycle, -, -, htwo⟩ :=
      hdaemon pairConfig (pairState []) (configured_pairState [])
    obtain ⟨hsame, -⟩ := htwo pairConfig (pairState [spoiledRow]) (configured_pairState _) rfl device
      List.mem_cons_self List.mem_cons_self hrows
    have hfirst : Daemon.Running.ofCycle pairDaemon (pairState []) = ⟨pairDaemon, w', some report⟩ :=
      hcycle
    rw [hfirst] at hrun
    exact ⟨report, w', hfirst, Option.some.inj hrun, hspoiled, hsame⟩

end Sample

end TunnelKeeper
