import Entitlement.Call

/-!
# Replicas

A replica answers from its own index and wraps every change of the store: the write comes first,
then the index is rebuilt, then the other replicas are told. A rebuild replaces the whole index or
leaves it alone, and the rebuilds of one replica wait for each other.
-/

namespace Entitlement

structure Profile where
  id : String
  defaultDomain : String := "default"
  adminRole : String := "admin"
deriving DecidableEq, Repr, Inhabited

namespace Call

def note (e : Event) : Call Unit := perform (.note (.event e))

def count (c : Counter) : Call Unit := perform (.note (.counted c))

def look {α : Type} (question : Index → α) : Call α := do
  let index ← perform .readIndex
  return question index

end Call

namespace Replica

/-- Asks the store for all grants and then for all assignments. -/
def buildIndex : Attempt Index := do
  let grants ← Attempt.ofStore (Call.perform (.query .allGrants))
  let assignments ← Attempt.ofStore (Call.perform (.query .allAssignments))
  return Index.ofAnswers grants assignments

def load (id storeName channelName : String) : Attempt Index := do
  let index ← buildIndex
  Call.note (.replicaLoaded id storeName channelName)
  return index

/-- Replaces the index by a fresh one. -/
def rebuild (id : String) : Attempt Unit := Attempt.mk do
  Call.perform .acquireLock
  let built ← buildIndex.run
  match built with
  | .ok index =>
    Call.perform (.swapIndex index)
    Call.count .rebuilds
    Call.count .rebuildDuration
    Call.note (.indexRebuilt id)
  -- The previous index stays.
  | .error cause =>
    Call.count .rebuildFailures
    Call.note (.rebuildFailed id cause)
  Call.perform .releaseLock
  return built.map fun _ => ()

/-- Tells the other replicas. -/
def announce (id : String) : Call Unit := do
  match ← Call.perform (.publish ⟨id⟩) with
  | .ok () => return
  -- It goes no further: the change is stored and visible here already.
  | .error cause =>
    Call.count .signalFailures
    Call.note (.signalFailed id cause)

/-- Changes the store, then this index, then tells the others. -/
def commit (id : String) (change : Change) (fact : Fact) : Attempt Unit := do
  Attempt.ofStore (Call.perform (.write change fact))
  let rebuilt ← (rebuild id).outcome
  -- The change is stored either way, so the others are told of it even if the rebuild failed.
  announce id
  match rebuilt with
  | .ok () => return
  | .error cause => Attempt.fail (.stale cause)

def health : Attempt Unit := Attempt.ofStore (Call.perform .probe)

def watch (id : String) : Attempt Nat := do
  let subscription ← Attempt.ofChannel (Call.perform .subscribe)
  -- For the changes made before the subscription.
  match ← (rebuild id).outcome with
  | .ok () => return subscription
  | .error cause =>
    Call.perform (.unsubscribe subscription)
    Attempt.fail cause

/-- What a watching replica does about a signal. -/
def follow (id : String) (s : Signal) : Call Unit := do
  -- Its own changes are in its index already.
  if s.origin = id then return
  -- The next signal makes up for a rebuild that fails.
  let _ ← (rebuild id).run

end Replica

end Entitlement
