import Entitlement.Cluster.Start
import Entitlement.Log.Filter
import Entitlement.Log.Line
import Entitlement.Settings.File

/-!
# The daemon

The life of a daemon: it reads its settings, starts a replica, sees whether the store answers,
watches for changes of the others, and works until it is asked to stop. A failure on the way ends
it with a report.
-/

namespace Entitlement

inductive DaemonFailure where
  | settings (cause : SettingFailure)
  | start (cause : StartFailure)
  | health (cause : Failure)
  | watch (cause : Failure)
deriving DecidableEq, Repr, Inhabited

namespace DaemonFailure

def message : DaemonFailure → String
  | settings _ => "authz config"
  | start cause => cause.message
  | health _ => "relation store health check"
  | watch _ => "subscribe to policy changes"

def causes : DaemonFailure → List String
  | settings cause => cause.chain
  | start cause => cause.causes
  | health cause | watch cause => cause.message :: cause.causes

/-- The lines of a cause, the first one behind `mark` and the others below its text. -/
def indented (mark text : String) : String :=
  let below := "\n" ++ String.ofList (List.replicate mark.length ' ')
  mark ++ below.intercalate (text.splitOn "\n")

def numbered (n : Nat) : String :=
  let digits := toString n
  String.ofList (List.replicate (5 - digits.length) ' ') ++ digits ++ ": "

/-- The message, and the causes beneath it; several causes are numbered. -/
def report (f : DaemonFailure) : String :=
  let beneath := match f.causes with
    | [] => ""
    | [cause] => "\n\nCaused by:\n" ++ indented "    " cause
    | causes =>
      "\n\nCaused by:\n" ++
        "\n".intercalate (causes.mapIdx fun i cause => indented (numbered i) cause)
  "Error: " ++ f.message ++ beneath ++ "\n"

end DaemonFailure

structure Daemon where
  settings : Settings
  cluster : Cluster
  -- The number of its replica.
  replica : Nat

namespace Daemon

def serviceName : String := "tollgate-authzd"

/-- Starts a replica, asks its store and begins to watch. -/
def launch (id : String) (s : Settings) (c : Cluster) : Except DaemonFailure Nat × Cluster :=
  match c.start id s with
  | (.error cause, c) => (.error (.start cause), c)
  | (.ok k, c) =>
    match c.run k Replica.health with
    | (.error cause, c) => (.error (.health cause), c)
    | (.ok (), c) =>
      match c.watch k with
      | (.error cause, c) => (.error (.watch cause), c)
      | (.ok (), c) => (.ok k, c)

def ready (id : String) (s : Settings) (k : Nat) (c : Cluster) : Event :=
  .daemonReady id s.metricsBind.text (c.isDurable k)

/-- Comes up, with the events until then. Before the settings are read nothing is told. -/
def start (id : String) (env : Settings.Environment) (files : Settings.Files)
    (c : Cluster) : Except DaemonFailure Daemon × List Event :=
  match Settings.load env files with
  | .error cause => (.error (.settings cause), [])
  | .ok settings =>
    match launch id settings (c.note (.event (.observing serviceName))) with
    | (.error cause, c) => (.error cause, c.telemetry.events)
    | (.ok k, c) =>
      (.ok ⟨settings, c, k⟩, c.telemetry.events ++ [ready id settings k c])

def farewell : List Event := [.daemonStopping]

end Daemon

/-- What is seen of a daemon from outside, from its start to its end. -/
structure Transcript where
  exit : Nat
  log : List String
  report : String
deriving DecidableEq, Repr, Inhabited

namespace Transcript

/-- The lines of the events that the filter shows. A value may hold line ends. -/
def lines (f : LogFilter) (events : List Event) : List String :=
  (events.filter f.shows).flatMap fun e => e.line.splitOn "\n"

/-- The whole life of a daemon that is asked to stop once it is ready. -/
def ofDaemon (id : String) (env : Settings.Environment) (files : Settings.Files) (c : Cluster) :
    Transcript :=
  let filter := LogFilter.ofVariable (env "RUST_LOG")
  match Daemon.start id env files c with
  | (.error cause, events) => { exit := 1, log := lines filter events, report := cause.report }
  | (.ok _, events) =>
    { exit := 0, log := lines filter (events ++ Daemon.farewell), report := "" }

end Transcript

end Entitlement
