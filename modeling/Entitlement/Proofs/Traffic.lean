import Entitlement.Proofs.Refinement

/-!
# Traffic

Calls of several replicas under way at the same time. Each call is cut at its actions, and between
two actions of one call any other call may go on. The rebuilds of a replica wait for its lock; a
watcher takes one signal at a time and is done with it before it takes the next. What happens is a
list of turns, so every interleaving is a list of turns and every such list can be played.
-/

namespace Entitlement

/-- What can be asked of a replica. -/
inductive Errand where
  | request (r : Policy.Request)
  | change (c : Change) (fact : Fact)
  | rebuild
  | watch
  | createNamespace (creator : String) (record : Namespace)
deriving DecidableEq, Repr

inductive Outcome where
  | served (result : Except Failure Policy.Response)
  | watched (result : Except Failure Nat)
  | followed

def Errand.call (me : Profile) : Errand → Call Outcome
  | request r => do return .served (← (r.call me).run)
  | change c fact => do
    let result ← (Replica.commit me.id c fact).run
    return .served (result.map fun _ => .done)
  | rebuild => do
    let result ← (Replica.rebuild me.id).run
    return .served (result.map fun _ => .done)
  | watch => do return .watched (← (Replica.watch me.id).run)
  | createNamespace creator record => do
    let result ← (Authority.createNamespace me creator record).run
    return .served (result.map fun _ => .done)

/-- A call of a replica and what is left of it. -/
structure Task where
  member : Nat
  -- The watcher that acts on a signal, if the call is one of a watcher.
  watcher : Option Watcher := none
  rest : Call Outcome

def Task.outcome? (task : Task) : Option Outcome :=
  match task.rest with
  | .done outcome => some outcome
  | .act .. => none

/-- A call that has opened a subscription leaves a watcher behind. -/
def Task.leave (task : Task) (f : Fleet) : Fleet :=
  match task.outcome? with
  | some (.watched (.ok subscription)) =>
    { f with watchers := f.watchers ++ [⟨task.member, subscription⟩] }
  | _ => f

structure Traffic where
  fleet : Fleet
  -- The replicas whose lock is taken.
  locked : List Nat := []
  -- Every call that was ever begun, in the order of their beginnings.
  tasks : List Task := []

/-- What can happen next: a call is begun, a call performs its next action, or a watcher takes a
signal. -/
inductive Turn where
  | begins (member : Nat) (errand : Errand)
  | goes (task : Nat)
  | hears (w : Watcher)
deriving DecidableEq, Repr

namespace Traffic

/-- The locks that are taken after an action of replica `k`. -/
def lockedAfter (k : Nat) (locked : List Nat) : Action → List Nat
  | .acquireLock => k :: locked
  | .releaseLock => locked.filter (· ≠ k)
  | _ => locked

def begins (k : Nat) (errand : Errand) (t : Traffic) : Option Traffic :=
  (t.fleet.member? k).map fun m =>
    { t with tasks := t.tasks ++ [{ member := k, rest := errand.call m.profile }] }

def goes (n : Nat) (t : Traffic) : Option Traffic :=
  match t.tasks[n]? with
  | some ⟨k, watcher, .act a next⟩ =>
    if a = .acquireLock ∧ k ∈ t.locked then none
    else
      let (answer, fleet) := Fleet.handler k a t.fleet
      let task : Task := ⟨k, watcher, next answer⟩
      some ⟨task.leave fleet, lockedAfter k t.locked a, t.tasks.set n task⟩
  | _ => none

/-- The watcher still acts on a signal. -/
def Busy (t : Traffic) (w : Watcher) : Prop :=
  ∃ task ∈ t.tasks, task.watcher = some w ∧ task.outcome?.isNone

instance (t : Traffic) (w : Watcher) : Decidable (t.Busy w) :=
  inferInstanceAs (Decidable (∃ task ∈ t.tasks, task.watcher = some w ∧ task.outcome?.isNone))

def hears (w : Watcher) (t : Traffic) : Option Traffic :=
  if w ∉ t.fleet.watchers ∨ t.Busy w then none
  else
    let (found, fleet) := t.fleet.receive w.subscription
    match found.signal?, fleet.member? w.member with
    | some s, some m =>
      let call := do
        Replica.follow m.profile.id s
        return .followed
      some { t with fleet, tasks := t.tasks ++ [⟨w.member, some w, call⟩] }
    | _, _ => none

/-- A turn that cannot be taken leads nowhere. -/
def take : Turn → Traffic → Option Traffic
  | .begins k errand, t => t.begins k errand
  | .goes n, t => t.goes n
  | .hears w, t => t.hears w

def play : List Turn → Traffic → Option Traffic
  | [], t => some t
  | turn :: rest, t => (t.take turn).bind (play rest)

/-- No call is half done. -/
def AtRest (t : Traffic) : Prop := ∀ task ∈ t.tasks, task.outcome?.isSome

instance (t : Traffic) : Decidable t.AtRest :=
  inferInstanceAs (Decidable (∀ task ∈ t.tasks, task.outcome?.isSome))

/-- Replicas over one store with the given content and one channel, before anything has happened;
their indexes may list anything. -/
def gathered (capacity : Nat) (relations : Relations) (replicas : List Member)
    (storeFaults : List (Fault Occasion StoreEffect) := [])
    (signalFaults : List (Fault Occasion SignalFailure) := []) : Traffic :=
  { fleet :=
      { relations, channel := .opened capacity, storeFaults, signalFaults,
        members := replicas.map some } }

end Traffic

end Entitlement
