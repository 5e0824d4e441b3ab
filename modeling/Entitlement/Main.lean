import Entitlement.Daemon

/-!
# The command line

The daemon as a program: its settings come from the environment and from the file named there, its
log goes to standard output, and it stops at the end of its input.
-/

namespace Entitlement.Main

def variableNames : List String :=
  ["TOLLGATE_ADMIN_ROLE", "TOLLGATE_CONFIG", "TOLLGATE_DEFAULT_DOMAIN", "TOLLGATE_METRICS_BIND",
   "TOLLGATE_NOTIFIER", "TOLLGATE_NOTIFY_CHANNEL", "TOLLGATE_POSTGRES_ACQUIRE_TIMEOUT_MS",
   "TOLLGATE_POSTGRES_MAX_CONNECTIONS", "TOLLGATE_POSTGRES_URL", "TOLLGATE_STORAGE", "RUST_LOG"]

def readEnvironment : IO Settings.Environment := do
  let values ← variableNames.mapM fun name => return (name, ← IO.getEnv name)
  return fun name => (values.lookup name).join

def readFile (path : String) : IO (Except FileFault String) := do
  try
    let bytes ← IO.FS.readBinFile path
    return (String.fromUTF8? bytes).elim (.error .encoding) .ok
  catch
    | .inappropriateType (some _) .. => return .error .notDirectory
    | .inappropriateType none .. => return .error .isDirectory
    | .invalidArgument .. => return .error .tooLong
    | _ => return .error .missing

def printLines (lines : List String) : IO Unit := do
  for line in lines do
    IO.println line
  (← IO.getStdout).flush

end Entitlement.Main

open Entitlement Entitlement.Main in
def main : IO UInt32 := do
  let env ← readEnvironment
  let contents ← match env "TOLLGATE_CONFIG" with
    | some path => readFile path
    | none => pure (.error .missing)
  let filter := LogFilter.ofVariable (env "RUST_LOG")
  let id := toString (← IO.rand 0 0x7FFFFFFFFFFFFFFF)
  let (started, events) := Daemon.start id env (fun _ => contents) {}
  printLines (Transcript.lines filter events)
  match started with
  | .error cause =>
    IO.eprint cause.report
    return 1
  | .ok _ =>
    let _ ← (← IO.getStdin).getLine
    printLines (Transcript.lines filter Daemon.farewell)
    return 0
