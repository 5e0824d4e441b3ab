import Entitlement.Cluster.Node

/-!
# Starting a replica

A replica is started from settings. First comes the pool, if anything needs the database, then the
store, then the channel, and at last the first index. What was opened on the way is closed when a
later step fails.
-/

namespace Entitlement

inductive StartFailure where
  -- The settings ask for a database and do not say where it is.
  | noDatabase
  | connection (cause : DatabaseFailure)
  | tables (cause : MigrationFailure)
  | listening (cause : DatabaseFailure)
  | index (cause : Failure)
deriving DecidableEq, Repr, Inhabited

namespace StartFailure

def message : StartFailure → String
  | noDatabase => "postgres configuration missing"
  | connection _ => "connect postgres pool"
  | tables _ => "initialize postgres relation store"
  | listening _ => "start postgres change notifier"
  | index _ => "load policy enforcer"

/-- The messages of the causes beneath. A failure of the store that time may heal, and one that says
what is there already, tell nothing of their own causes. -/
def causes : StartFailure → List String
  | noDatabase => []
  | connection cause =>
    match cause.toStoreFailure with
    | .unexpected text => text :: cause.causes
    | failure => [failure.message]
  | tables cause => cause.message :: cause.causes
  | listening cause => cause.message :: cause.causes
  | index cause => cause.message :: cause.causes

end StartFailure

namespace Cluster

structure Parts where
  pool : Option Nat
  backing : Backing
  outlet : Outlet

def discard (parts : Parts) (c : Cluster) : Cluster :=
  let c := match parts.outlet with
    | .listener n => c.stopListener n
    | .broadcast _ => c
  match parts.pool with
  | some n => c.closePool n
  | none => c

/-- The pool of a replica, if its settings need the database at all. -/
def startPool (s : Settings) (c : Cluster) : Except StartFailure (Option Nat) × Cluster :=
  if s.storage = .database ∨ s.signalling = .database then
    match s.database with
    | none => (.error .noDatabase, c)
    | some d =>
      let (opened, c) := c.openPool d
      ((opened.mapError .connection).map some, c)
  else (.ok none, c)

def startBacking (s : Settings) (pool : Option Nat) (c : Cluster) :
    Except StartFailure Backing × Cluster :=
  match s.storage, pool with
  | .database, some n =>
    let (done, c) := c.setUp n
    ((done.mapError .tables).map fun _ => .pool n, c)
  | _, _ => (.ok (.memory .empty), c)

def startOutlet (s : Settings) (pool : Option Nat) (c : Cluster) :
    Except StartFailure Outlet × Cluster :=
  match s.signalling, pool with
  | .database, some n =>
    let (listening, c) := c.listen n s.channel
    ((listening.mapError .listening).map .listener, c)
  | _, _ => (.ok (.broadcast (.opened broadcastCapacity)), c)

def startParts (s : Settings) (c : Cluster) : Except StartFailure Parts × Cluster :=
  match c.startPool s with
  | (.error cause, c) => (.error cause, c)
  | (.ok pool, c) =>
    let failing (cause : StartFailure) (c : Cluster) : Except StartFailure Parts × Cluster :=
      (.error cause, match pool with
        | some n => c.closePool n
        | none => c)
    match c.startBacking s pool with
    | (.error cause, c) => failing cause c
    | (.ok backing, c) =>
      match c.startOutlet s pool with
      | (.error cause, c) => failing cause c
      | (.ok outlet, c) => (.ok { pool, backing, outlet }, c)

def start (id : String) (s : Settings) (c : Cluster) : Except StartFailure Nat × Cluster :=
  match c.startParts s with
  | (.error cause, c) => (.error cause, c)
  | (.ok parts, c) =>
    let k := c.nodes.length
    let c := match parts.backing with
      | .memory _ => c.note (.event .storeIsVolatile)
      | .pool _ => c
    let n : Node :=
      { profile := ⟨id, s.defaultDomain, s.adminRole⟩, backing := parts.backing,
        outlet := parts.outlet, pool := parts.pool }
    let load := Replica.load id parts.backing.name parts.outlet.name
    match { c with nodes := c.nodes ++ [n] }.run k load with
    | (.ok index, c) => (.ok k, c.modifyNode k fun n => { n with index })
    | (.error cause, c) =>
      (.error (.index cause), { c with nodes := c.nodes.take k }.discard parts)

end Cluster

end Entitlement
