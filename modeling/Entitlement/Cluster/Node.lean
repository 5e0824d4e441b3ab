import Entitlement.Cluster

/-!
# The replicas of a cluster

What the actions of a replica do to its cluster. While a call waits for the database, the listeners
and the watchers work; a call that needs no database is not interrupted. Watchers follow the signals
that reach their replica and end with its channel.
-/

namespace Entitlement.Cluster

/-- Replica `k`, unless it was dropped. -/
def node? (k : Nat) (c : Cluster) : Option Node := c.nodes[k]?.filter fun n => !n.dropped

def node (k : Nat) (c : Cluster) : Node := (c.nodes[k]?).getD default

def modifyNode (k : Nat) (f : Node → Node) (c : Cluster) : Cluster :=
  { c with nodes := c.nodes.modify k f }

/-! ### Its channel -/

def channelOf (k : Nat) (c : Cluster) : Channel :=
  match (c.node k).outlet with
  | .broadcast channel => channel
  | .listener n => (c.listeners[n]?.getD default).outlet

def modifyChannel (k : Nat) (f : Channel → Channel) (c : Cluster) : Cluster :=
  match (c.node k).outlet with
  | .broadcast channel => c.modifyNode k fun n => { n with outlet := .broadcast (f channel) }
  | .listener n =>
    { c with listeners := c.listeners.modify n fun l => { l with outlet := f l.outlet } }

def subscribe (k : Nat) (c : Cluster) : Nat × Cluster :=
  let (id, channel) := (c.channelOf k).subscribe
  (id, c.modifyChannel k fun _ => channel)

def unsubscribe (k id : Nat) (c : Cluster) : Cluster :=
  c.modifyChannel k fun channel => channel.unsubscribe id

def receive (k subscription : Nat) (c : Cluster) : Reception × Cluster :=
  let (found, channel) := (c.channelOf k).receive subscription
  let c := c.modifyChannel k fun _ => channel
  match found with
  | .lagged skipped => (found, c.note (.event (.receiverLagged skipped)))
  | _ => (found, c)

def publish (k : Nat) (s : Signal) (c : Cluster) : Except SignalFailure Unit × Cluster :=
  match (c.node k).outlet with
  | .listener n => c.notify n s
  | .broadcast _ => (.ok (), c.modifyChannel k fun channel => channel.publish s)

/-! ### Its store -/

def write (k : Nat) (change : Change) (fact : Fact) (c : Cluster) :
    Except StoreFailure Unit × Cluster :=
  match (c.node k).backing with
  | .pool n => c.writeRow n change fact
  | .memory relations =>
    (.ok (), c.modifyNode k fun n => { n with backing := .memory (relations.write change fact) })

def query (k : Nat) (pattern : FactPattern) (c : Cluster) :
    Except StoreFailure (List Fact) × Cluster :=
  match (c.node k).backing with
  | .pool n => c.queryRows n pattern
  | .memory relations => (.ok (relations.query pattern), c)

def probe (k : Nat) (c : Cluster) : Except StoreFailure Unit × Cluster :=
  match (c.node k).backing with
  | .pool n => c.probeStore n
  | .memory _ => (.ok (), c)

def register (k : Nat) (record : Namespace) (c : Cluster) :
    Except StoreFailure Namespace × Cluster :=
  let (answer, registry) := (c.node k).registry.register record
  (answer, c.modifyNode k fun n => { n with registry })

/-- What the actions of replica `k` do to the cluster. -/
def handler (k : Nat) : Handler Cluster
  | .write change fact, c => c.write k change fact
  | .query pattern, c => c.query k pattern
  | .probe, c => c.probe k
  | .publish s, c => c.publish k s
  | .subscribe, c =>
    let (id, c) := c.subscribe k
    (.ok id, c)
  | .unsubscribe id, c => ((), c.unsubscribe k id)
  | .register record, c => c.register k record
  | .listing w, c => (.ok ((c.node k).registry.page w), c)
  | .acquireLock, c => ((), c)
  | .releaseLock, c => ((), c)
  | .readIndex, c => ((c.node k).index, c)
  | .swapIndex index, c => ((), c.modifyNode k fun n => { n with index })
  | .note t, c => ((), c.note t)

/-! ### Its watchers -/

def endWatch (w : Watch) (c : Cluster) : Cluster :=
  { c with watches := c.watches.filter (· ≠ w) }.unsubscribe w.node w.subscription
    |>.note (.event .watcherStopped)

/-- One step of a watcher, and whether it goes on. -/
def stepWatch (w : Watch) (c : Cluster) : Bool × Cluster :=
  let (found, c) := c.receive w.node w.subscription
  match found.signal?, c.node? w.node with
  | some s, some n => (true, ((Replica.follow n.profile.id s).run (handler w.node) c).2)
  | some _, none => (false, c.endWatch w)
  | none, _ => (false, if found = .closed then c.endWatch w else c)

def drain (w : Watch) : Nat → Cluster → Cluster
  | 0, c => c
  | steps + 1, c =>
    match c.stepWatch w with
    | (true, c) => drain w steps c
    | (false, c) => c

def work (c : Cluster) : Cluster :=
  let c := c.wakeListeners
  c.watches.foldl (fun c w => c.drain w ((c.channelOf w.node).backlog w.subscription + 1)) c

/-- Lets everything work until nothing is left to do; connections on their way arrive. -/
def settle (c : Cluster) : Cluster := c.work.takeInAll

/-! ### Its calls -/

def waits (k : Nat) (a : Action) (c : Cluster) : Bool :=
  match a, (c.node k).backing, (c.node k).outlet with
  | .write .., .pool _, _ | .query _, .pool _, _ | .probe, .pool _, _ => true
  | .publish _, _, .listener _ => true
  | _, _, _ => false

/-- The meaning of the actions of a call: the others work where it waits. -/
def callHandler (k : Nat) : Handler Cluster := fun a c =>
  handler k a (if c.waits k a then c.work else c)

def run {α : Type} (k : Nat) (attempt : Attempt α) (c : Cluster) : Except Failure α × Cluster :=
  attempt.run.run (callHandler k) c

def watch (k : Nat) (c : Cluster) : Except Failure Unit × Cluster :=
  match c.run k (Replica.watch (c.node k).profile.id) with
  | (.error cause, c) => (.error cause, c)
  | (.ok subscription, c) => (.ok (), { c with watches := c.watches ++ [⟨k, subscription⟩] })

/-- Ends the watchers of replica `k`; answers how many there were. -/
def unwatch (k : Nat) (c : Cluster) : Nat × Cluster :=
  let (ended, kept) := c.watches.partition (·.node == k)
  (ended.length,
    ended.foldl (fun c w => c.unsubscribe k w.subscription) { c with watches := kept })

def isDurable (k : Nat) (c : Cluster) : Bool :=
  match (c.node k).backing with
  | .pool _ => true
  | .memory _ => false

/-- A dropped replica closes its channel and its pool. -/
def dropNode (k : Nat) (c : Cluster) : Cluster :=
  let n := c.node k
  let c := c.modifyNode k fun n => { n with dropped := true }
  let c := match n.outlet with
    | .broadcast _ => c.modifyChannel k Channel.close
    | .listener number => c.stopListener number
  match n.pool with
  | some number => c.closePool number
  | none => c

end Entitlement.Cluster
