import TunnelKeeper.Daemon.Run

/-!
The daemon as a program. There is no way to a kernel from here, so every cycle reports its devices as
unsynced.
-/

namespace TunnelKeeper.Daemon

/-- What the program prints when it is asked for help. -/
def usage : String :=
  "Keeps WireGuard devices in sync with their stored peers\n\n"
    ++ "Usage: tunnelkeeper [OPTIONS]\n\n"
    ++ "Options:\n"
    ++ "  -c, --config <CONFIG>      Path to the configuration file [default: "
    ++ CommandLine.defaultConfig ++ "]\n"
    ++ "  -i, --interval <INTERVAL>  Re-reconciliation interval in seconds [default: "
    ++ toString CommandLine.defaultInterval ++ "]\n"
    ++ "      --once                 Run the startup pass and exit\n"
    ++ "  -h, --help                 Print help\n"
    ++ "  -V, --version              Print version\n"

def findFile (path : String) : IO FileEntry := do
  try return .ofOctets (← IO.FS.readBinFile path)
  catch
    | .noFileOrDirectory .. => return .absent
    | _ => return .unreadable

/-- Makes a cycle every `interval` seconds. -/
partial def keepRunning (interval : Nat) (d : Running Unit) : IO Unit := do
  IO.sleep (UInt32.ofNat (min 4294967 (max 1 interval) * 1000))
  keepRunning interval d.next

/-- Runs the daemon, and gives the status to exit with. -/
def runProgram (o : Options) : IO UInt32 := do
  match ← run findFile (.unsupported Unit) () o with
  | .error e =>
    IO.eprintln ("Error: " ++ e.message)
    return 1
  | .ok d =>
    match d.outcome o with
    | .error e =>
      IO.eprintln ("Error: " ++ e.message)
      return 1
    | .ok () =>
      if !o.once then keepRunning o.interval d
      return 0

end TunnelKeeper.Daemon

open TunnelKeeper in
def main (args : List String) : IO UInt32 := do
  match CommandLine.parse args with
  | .run o => Daemon.runProgram o
  | .help =>
    IO.print Daemon.usage
    return 0
  | .version =>
    IO.println "tunnelkeeper 0.1.0"
    return 0
  | .refused =>
    IO.eprint Daemon.usage
    return 2
