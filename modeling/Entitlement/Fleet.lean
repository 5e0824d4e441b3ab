import Entitlement.Authority
import Entitlement.Fault
import Entitlement.Relations

/-!
# A fleet

Replicas that share one store in memory, one channel and one namespace registry. Faults can be
armed on each of the three. Watching replicas follow the signals of the channel; their work is done
between the calls, until nothing is left to do.
-/

namespace Entitlement

inductive Point where
  | insert
  | delete
  | query
  | probe
  | register
  | listing
  | publish
  | subscribe
deriving DecidableEq, Repr, Inhabited

/-- A call as the faults see it: its place, the relation that it concerns, and the fields of the
fact that it writes. In a trigger an absent value fits every call. -/
structure Occasion where
  point : Point
  relation : Option String := none
  user : Option String := none
  role : Option String := none
  domain : Option String := none
  object : Option String := none
  action : Option String := none
deriving DecidableEq, Repr, Inhabited

def Fact.relation : Fact → String
  | grant _ => "grant"
  | assignment _ => "assignment"

def FactPattern.relation : FactPattern → String
  | grants _ => "grant"
  | assignments _ => "assignment"

namespace Occasion

def ofWrite (change : Change) (fact : Fact) : Occasion :=
  let point := match change with
    | .insert => Point.insert
    | .delete => Point.delete
  match fact with
  | .grant g =>
    { point, relation := some fact.relation, role := some g.role, domain := some g.domain,
      object := some g.object, action := some g.action }
  | .assignment a =>
    { point, relation := some fact.relation, user := some a.user, role := some a.role,
      domain := some a.domain }

def ofQuery (pattern : FactPattern) : Occasion :=
  { point := .query, relation := some pattern.relation }

def fits (call trigger : Occasion) : Bool :=
  trigger.point == call.point && given trigger.relation call.relation &&
    given trigger.user call.user && given trigger.role call.role &&
    given trigger.domain call.domain && given trigger.object call.object &&
    given trigger.action call.action
where
  given (wanted value : Option String) : Bool := wanted.isNone || wanted == value

end Occasion

/-- How a call of the store or of the registry fails; a write can take effect all the same. -/
structure StoreEffect where
  failure : StoreFailure
  persists : Bool := false
deriving DecidableEq, Repr, Inhabited

inductive StoreCall where
  | write (change : Change) (fact : Fact)
  | query (pattern : FactPattern)
deriving DecidableEq, Repr, Inhabited

structure Member where
  profile : Profile
  index : Index
deriving DecidableEq, Repr, Inhabited

structure Watcher where
  member : Nat
  subscription : Nat
deriving DecidableEq, Repr, Inhabited

structure Fleet where
  relations : Relations := .empty
  -- What the store says of itself.
  durable : Bool := false
  -- The store answers queries with these lists instead of its content.
  rigged : Option (List Fact × List Fact) := none
  channel : Channel := .opened 16
  registry : Registry := .empty
  storeFaults : List (Fault Occasion StoreEffect) := []
  signalFaults : List (Fault Occasion SignalFailure) := []
  -- The calls of the store with their success, the newest first.
  journal : List (StoreCall × Bool) := []
  telemetry : Telemetry := []
  -- The replicas by number; nothing where one was dropped.
  members : List (Option Member) := []
  watchers : List Watcher := []

namespace Fleet

def storeName : String := "memory"

def channelName : String := "broadcast"

/-! ### The store -/

def strikeStore (call : Occasion) (f : Fleet) : Option StoreEffect × Fleet :=
  let (struck, storeFaults) := Fault.strike call.fits f.storeFaults
  (struck, { f with storeFaults })

def enter (call : StoreCall) (success : Bool) (f : Fleet) : Fleet :=
  { f with journal := (call, success) :: f.journal }

def write (change : Change) (fact : Fact) (f : Fleet) : Except StoreFailure Unit × Fleet :=
  match f.strikeStore (.ofWrite change fact) with
  | (none, f) =>
    (.ok (), { f with relations := f.relations.write change fact }.enter (.write change fact) true)
  | (some effect, f) =>
    -- A refused write can take effect all the same.
    let relations := if effect.persists then f.relations.write change fact else f.relations
    (.error effect.failure, { f with relations }.enter (.write change fact) false)

def query (pattern : FactPattern) (f : Fleet) : Except StoreFailure (List Fact) × Fleet :=
  match f.strikeStore (.ofQuery pattern) with
  | (some effect, f) => (.error effect.failure, f.enter (.query pattern) false)
  | (none, f) =>
    let answer := match f.rigged, pattern with
      | some (grants, _), .grants _ => grants
      | some (_, assignments), .assignments _ => assignments
      | none, _ => f.relations.query pattern
    (.ok answer, f.enter (.query pattern) true)

def probe (f : Fleet) : Except StoreFailure Unit × Fleet :=
  match f.strikeStore { point := .probe } with
  | (some effect, f) => (.error effect.failure, f)
  | (none, f) => (.ok (), f)

/-! ### The registry -/

def register (record : Namespace) (f : Fleet) : Except StoreFailure Namespace × Fleet :=
  match f.strikeStore { point := .register } with
  | (some effect, f) => (.error effect.failure, f)
  | (none, f) =>
    let (answer, registry) := f.registry.register record
    (answer, { f with registry })

def listing (w : Window) (f : Fleet) : Except StoreFailure (Page Namespace) × Fleet :=
  match f.strikeStore { point := .listing } with
  | (some effect, f) => (.error effect.failure, f)
  | (none, f) => (.ok (f.registry.page w), f)

/-! ### The channel -/

def strikeSignal (call : Occasion) (f : Fleet) : Option SignalFailure × Fleet :=
  let (struck, signalFaults) := Fault.strike call.fits f.signalFaults
  (struck, { f with signalFaults })

def publish (s : Signal) (f : Fleet) : Except SignalFailure Unit × Fleet :=
  match f.strikeSignal { point := .publish } with
  | (some failure, f) => (.error failure, f)
  | (none, f) => (.ok (), { f with channel := f.channel.publish s })

def subscribe (f : Fleet) : Except SignalFailure Nat × Fleet :=
  match f.strikeSignal { point := .subscribe } with
  | (some failure, f) => (.error failure, f)
  | (none, f) =>
    let (id, channel) := f.channel.subscribe
    (.ok id, { f with channel })

def unsubscribe (id : Nat) (f : Fleet) : Fleet := { f with channel := f.channel.unsubscribe id }

/-! ### The replicas -/

def note (t : Trace) (f : Fleet) : Fleet := { f with telemetry := t :: f.telemetry }

def member? (k : Nat) (f : Fleet) : Option Member := f.members[k]?.join

def indexOf (k : Nat) (f : Fleet) : Index :=
  match f.member? k with
  | some m => m.index
  | none => .empty

def swapIndex (k : Nat) (index : Index) (f : Fleet) : Fleet :=
  { f with members := f.members.modify k (Option.map fun m => { m with index }) }

/-- What the actions of replica `k` do to the fleet. -/
def handler (k : Nat) : Handler Fleet
  | .write change fact, f => f.write change fact
  | .query pattern, f => f.query pattern
  | .probe, f => f.probe
  | .publish s, f => f.publish s
  | .subscribe, f => f.subscribe
  | .unsubscribe id, f => ((), f.unsubscribe id)
  | .register record, f => f.register record
  | .listing w, f => f.listing w
  | .acquireLock, f => ((), f)
  | .releaseLock, f => ((), f)
  | .readIndex, f => (f.indexOf k, f)
  | .swapIndex index, f => ((), f.swapIndex k index)
  | .note t, f => ((), f.note t)

def run {α : Type} (k : Nat) (attempt : Attempt α) (f : Fleet) : Except Failure α × Fleet :=
  attempt.run.run (handler k) f

def addMember (profile : Profile) (f : Fleet) : Except Failure Nat × Fleet :=
  let k := f.members.length
  match f.run k (Replica.load profile.id storeName channelName) with
  -- A replica without a first index is not there at all.
  | (.error cause, f) => (.error cause, f)
  | (.ok index, f) => (.ok k, { f with members := f.members ++ [some ⟨profile, index⟩] })

/-- Its watchers stay until the next signal. -/
def dropMember (k : Nat) (f : Fleet) : Fleet := { f with members := f.members.set k none }

def watch (k : Nat) (id : String) (f : Fleet) : Except Failure Unit × Fleet :=
  match f.run k (Replica.watch id) with
  | (.error cause, f) => (.error cause, f)
  | (.ok subscription, f) => (.ok (), { f with watchers := f.watchers ++ [⟨k, subscription⟩] })

/-- Ends the watchers of replica `k`; answers how many there were. -/
def unwatch (k : Nat) (f : Fleet) : Nat × Fleet :=
  let (ended, kept) := f.watchers.partition (·.member == k)
  (ended.length,
    ended.foldl (fun f w => f.unsubscribe w.subscription) { f with watchers := kept })

/-! ### Following the signals -/

def receive (subscription : Nat) (f : Fleet) : Reception × Fleet :=
  let (found, channel) := f.channel.receive subscription
  let f := { f with channel }
  match found with
  | .lagged skipped => (found, f.note (.event (.receiverLagged skipped)))
  | _ => (found, f)

/-- A watcher ends when the channel does, or when a signal finds its replica dropped. -/
def endWatcher (w : Watcher) (f : Fleet) : Fleet :=
  { f with watchers := f.watchers.filter (· ≠ w) }.unsubscribe w.subscription
    |>.note (.event .watcherStopped)

def stepWatcher (w : Watcher) (f : Fleet) : Bool × Fleet :=
  let (found, f) := f.receive w.subscription
  match found.signal?, f.member? w.member with
  | some s, some m => (true, ((Replica.follow m.profile.id s).run (handler w.member) f).2)
  | some _, none => (false, f.endWatcher w)
  | none, _ => (false, if found = .closed then f.endWatcher w else f)

def drain (w : Watcher) : Nat → Fleet → Fleet
  | 0, f => f
  | steps + 1, f =>
    match f.stepWatcher w with
    | (true, f) => drain w steps f
    | (false, f) => f

/-- Lets every watcher work until nothing is left to do. -/
def settle (f : Fleet) : Fleet :=
  -- Following a signal publishes nothing, so each watcher is done after its backlog.
  f.watchers.foldl (fun f w => f.drain w (f.channel.backlog w.subscription + 1)) f

end Fleet

end Entitlement
