import Entitlement.Replica
import Entitlement.Database.Setup
import Entitlement.Listener
import Entitlement.Settings

/-!
# A cluster

A database and the replicas around it. Pools lend connections, and listeners bring the notifications
of the database to their subscribers; both belong to replicas, or stand for themselves. The clock
tells the listeners when to try again.
-/

namespace Entitlement

inductive Backing where
  | memory (relations : Relations)
  | pool (number : Nat)
deriving Inhabited

inductive Outlet where
  | broadcast (channel : Channel)
  | listener (number : Nat)
deriving Inhabited

def Backing.name : Backing → String
  | memory _ => "memory"
  | pool _ => "postgres"

def Outlet.name : Outlet → String
  | broadcast _ => "broadcast"
  | listener _ => "postgres"

structure Node where
  profile : Profile
  index : Index := .empty
  backing : Backing
  outlet : Outlet
  -- The pool that it was started with, if it needs the database.
  pool : Option Nat := none
  registry : Registry := .empty
  dropped : Bool := false
deriving Inhabited

/-- A watching replica, by its number, and its subscription. -/
structure Watch where
  node : Nat
  subscription : Nat
deriving DecidableEq, Repr, Inhabited

inductive OpenFailure where
  | connection (cause : DatabaseFailure)
  | tables (cause : MigrationFailure)
deriving DecidableEq, Repr, Inhabited

def OpenFailure.toStoreFailure : OpenFailure → StoreFailure
  | connection cause => cause.toStoreFailure
  | tables cause => cause.toStoreFailure

structure Cluster where
  database : Database := {}
  -- In milliseconds.
  clock : Nat := 0
  pools : List Pool := []
  listeners : List Listener := []
  nodes : List Node := []
  watches : List Watch := []
  telemetry : Telemetry := []
deriving Inhabited

namespace Cluster

def broadcastCapacity : Nat := 64

def note (t : Trace) (c : Cluster) : Cluster := { c with telemetry := t :: c.telemetry }

def noteAll (traces : List Trace) (c : Cluster) : Cluster :=
  traces.foldl (fun c t => c.note t) c

/-! ### Listeners and the clock -/

def wakeListener (c : Cluster) (n : Nat) : Cluster :=
  match c.listeners[n]? with
  | none => c
  | some l =>
    match c.pools[l.pool]? with
    | none => c
    | some p =>
      let (traces, l', p, database) := l.wake c.clock p c.database
      { c with listeners := c.listeners.set n l', pools := c.pools.set l.pool p,
               database }.noteAll traces

def wakeListeners (c : Cluster) : Cluster :=
  (List.range c.listeners.length).foldl wakeListener c

/-- The first time up to `stop` at which a listener wants to try again. -/
def nextDue? (stop : Nat) (c : Cluster) : Option Nat :=
  ((c.listeners.filterMap (·.due)).filter (· ≤ stop)).min?

/-- Lets the clock run to `stop` and wakes the listeners whenever one of them is due. -/
def runClock (stop : Nat) : Nat → Cluster → Cluster
  | 0, c => { c with clock := stop }
  | rounds + 1, c =>
    match c.nextDue? stop with
    | none => { c with clock := stop }
    | some due => runClock stop rounds { c with clock := max due c.clock }.wakeListeners

def wait (ms : Nat) (c : Cluster) : Cluster :=
  -- No listener tries more often than its pause allows.
  c.runClock (timerEnd c.clock ms) (c.listeners.length * (ms / Listener.pause + 1))

/-- Sets the clock forward at once; a listener that is due then tries once. -/
def advance (ms : Nat) (c : Cluster) : Cluster := { c with clock := c.clock + ms }

/-! ### Pools -/

def setPool (n : Nat) (p : Pool) (database : Database) (c : Cluster) : Cluster :=
  { c with pools := c.pools.set n p, database }

/-- Sends a statement over a connection of a pool. -/
def send (n : Nat) (s : Statement) (c : Cluster) : Except DatabaseFailure (List Row) × Cluster :=
  match c.pools[n]? with
  | none => (.error .poolClosed, c)
  | some p =>
    let (answer, p, database) := p.send s c.database
    let c := c.setPool n p database
    match answer with
    -- Waiting in vain takes the time that the pool allows.
    | .error .timedOut => (answer, c.wait p.timeout)
    | _ => (answer, c)

def connectPool (address : DatabaseAddress) (d : DatabaseSettings) (c : Cluster) :
    Except DatabaseFailure Nat × Cluster :=
  match Pool.opened address d.maxConnections d.acquireTimeout c.database with
  | (.ok p, database) => (.ok c.pools.length, { c with pools := c.pools ++ [p], database })
  | (.error .timedOut, database) =>
    (.error .timedOut, { c with database }.wait d.acquireTimeout)
  | (.error cause, database) => (.error cause, { c with database })

def openPool (d : DatabaseSettings) (c : Cluster) : Except DatabaseFailure Nat × Cluster :=
  let (address, events) := DatabaseAddress.ofUrl d.url
  let c := c.noteAll (events.map .event)
  match address with
  | .error fault => (.error (.address fault), c)
  | .ok address =>
    if d.maxConnections = 0 then (.error .noCapacity, c) else c.connectPool address d

def closePool (n : Nat) (c : Cluster) : Cluster :=
  match c.pools[n]? with
  | none => c
  | some p =>
    let (p, database) := p.close c.database
    c.setPool n p database

/-- The connections that were given back arrive in their pools. -/
def takeInAll (c : Cluster) : Cluster :=
  (List.range c.pools.length).foldl (fun c n =>
    match c.pools[n]? with
    | none => c
    | some p =>
      let (p, database) := p.takeIn c.database
      c.setPool n p database) c

def setUp (n : Nat) (c : Cluster) : Except MigrationFailure Unit × Cluster :=
  match c.pools[n]? with
  | none => (.error (.bookkeeping .poolClosed), c)
  | some p =>
    match p.acquire c.database with
    | (.error cause, p, database) => (.error (.bookkeeping cause), c.setPool n p database)
    | (.ok id, p, database) =>
      let (done, database) := database.setUp id
      (done, c.setPool n (p.release id) database)

def openStore (d : DatabaseSettings) (c : Cluster) : Except OpenFailure Nat × Cluster :=
  match c.openPool d with
  | (.error cause, c) => (.error (.connection cause), c)
  | (.ok n, c) =>
    match c.setUp n with
    | (.error cause, c) => (.error (.tables cause), c.closePool n)
    | (.ok (), c) => (.ok n, c)

/-! ### The store in the database -/

def writeRow (n : Nat) (change : Change) (fact : Fact) (c : Cluster) :
    Except StoreFailure Unit × Cluster :=
  let (answer, c) := c.send n (.ofWrite change fact)
  ((answer.mapError DatabaseFailure.toStoreFailure).map fun _ => (), c)

def queryRows (n : Nat) (pattern : FactPattern) (c : Cluster) :
    Except StoreFailure (List Fact) × Cluster :=
  let (answer, c) := c.send n (.ofQuery pattern)
  ((answer.mapError DatabaseFailure.toStoreFailure).map fun rows =>
    rows.filterMap (Fact.ofRow? pattern.table), c)

def probeStore (n : Nat) (c : Cluster) : Except StoreFailure Unit × Cluster :=
  let (answer, c) := c.send n .probe
  ((answer.mapError DatabaseFailure.toStoreFailure).map fun _ => (), c)

/-! ### Channels -/

def listen (n : Nat) (channel : String) (c : Cluster) : Except DatabaseFailure Nat × Cluster :=
  match c.pools[n]? with
  | none => (.error .poolClosed, c)
  | some p =>
    let (started, p', database) := Listener.start n channel p c.database
    let c := c.setPool n p' database
    match started with
    | .ok l =>
      (.ok c.listeners.length,
        { c with listeners := c.listeners ++ [l] }.note (.event (.listening channel)))
    | .error .timedOut => (.error .timedOut, c.wait p.timeout)
    | .error cause => (.error cause, c)

def stopListener (n : Nat) (c : Cluster) : Cluster :=
  match c.listeners[n]? with
  | none => c
  | some l =>
    match c.pools[l.pool]? with
    | none => c
    | some p =>
      let (stopped, p, database) := l.stop p c.database
      { c.setPool l.pool p database with listeners := c.listeners.set n stopped }

def notify (n : Nat) (s : Signal) (c : Cluster) : Except SignalFailure Unit × Cluster :=
  match c.listeners[n]? with
  | none => (.error .closed, c)
  | some l =>
    let (answer, c) := c.send l.pool (.notify l.channel s.encode)
    ((answer.mapError DatabaseFailure.toSignalFailure).map fun _ => (), c)

def subscribeListener (n : Nat) (c : Cluster) : Except SignalFailure Nat × Cluster :=
  match c.listeners[n]? with
  | none => (.error .closed, c)
  | some l =>
    let (id, outlet) := l.outlet.subscribe
    (.ok id, { c with listeners := c.listeners.set n { l with outlet } })

/-- One attempt to receive what a listener handed on; a lag is noted. -/
def receiveFrom (n subscription : Nat) (c : Cluster) : Reception × Cluster :=
  match c.listeners[n]? with
  | none => (.closed, c)
  | some l =>
    let (found, outlet) := l.outlet.receive subscription
    let c := { c with listeners := c.listeners.set n { l with outlet } }
    match found with
    | .lagged skipped => (found, c.note (.event (.receiverLagged skipped)))
    | _ => (found, c)

end Cluster

end Entitlement
