import TunnelKeeper.Daemon.CommandLine
import TunnelKeeper.Daemon.Cycle

/-!
A run of the daemon: it loads the configuration, opens the state file that this names, and makes its
first cycle. The run ends there if a single cycle was asked for.
-/

namespace TunnelKeeper.Daemon

/-- The daemon after a cycle. -/
structure Running (κ : Type) where
  reconciler : Reconciler κ FilePeers MemoryDevices
  world : World κ FilePeers MemoryDevices
  /-- The report of the cycle; none if the devices could not be listed. -/
  report : Option SyncReport

namespace Running

variable {κ : Type}

def ofCycle (r : Reconciler κ FilePeers MemoryDevices) (w : World κ FilePeers MemoryDevices) :
    Running κ :=
  let (report, w) := (r.cycle : Attempt Empty _ _) w
  ⟨r, w, report.toOption.getD none⟩

def next (d : Running κ) : Running κ := ofCycle d.reconciler d.world

/-- How the run ends: with the outcome of its only cycle, or on demand. -/
def outcome (d : Running κ) (o : Options) : Except DaemonError Unit :=
  if o.once then Daemon.outcome d.report else .ok ()

end Running

variable {κ : Type} {m : Type → Type} [Monad m]

/-- Loads the configuration, opens the state file and makes the first cycle, where `find` tells what
is at a path. -/
def run (find : String → m FileEntry) (gateway : Gateway κ) (kernel : κ) (o : Options) :
    m (Except DaemonError (Running κ)) := do
  match Config.load (← find o.config) with
  | .error e => return .error (.config e)
  | .ok config =>
    match start kernel config (← find config.stateFile) with
    | .error e => return .error (.store e)
    | .ok world => return .ok (.ofCycle (reconciler gateway config) world)

end TunnelKeeper.Daemon
