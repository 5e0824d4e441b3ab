/-!
# The channel between replicas

A broadcast channel of signals. It holds the last `capacity` signals; every subscription has its own
position and sees what was published after it began. A receiver whose next signal is no longer held
is told once that it lagged and goes on with the oldest signal still held.
-/

namespace Entitlement

/-- A change of the policy somewhere. It carries no policy, only who published it; an empty origin
is unknown. -/
structure Signal where
  origin : String
deriving DecidableEq, Repr, Inhabited

/-- A receiver and the position of the signal that it reads next. -/
structure Subscription where
  id : Nat
  position : Nat
deriving DecidableEq, Repr, Inhabited

structure Channel where
  capacity : Nat
  -- How many signals were ever published.
  published : Nat
  -- The last of them, the oldest first.
  held : List Signal
  closed : Bool
  subscriptions : List Subscription
  -- The id of the next subscription.
  nextId : Nat
deriving DecidableEq, Repr, Inhabited

inductive Reception where
  | received (s : Signal)
  | lagged (skipped : Nat)
  | pending
  | closed
deriving DecidableEq, Repr, Inhabited

namespace Channel

def opened (capacity : Nat) : Channel :=
  -- Signals are kept in a ring with a power of two of places.
  { capacity := (max capacity 1).nextPowerOfTwo, published := 0, held := [], closed := false,
    subscriptions := [], nextId := 0 }

def publish (s : Signal) (c : Channel) : Channel :=
  let held := c.held ++ [s]
  { c with published := c.published + 1, held := held.drop (held.length - c.capacity) }

def subscribe (c : Channel) : Nat × Channel :=
  let added := ⟨c.nextId, c.published⟩
  (c.nextId, { c with subscriptions := c.subscriptions ++ [added], nextId := c.nextId + 1 })

def unsubscribe (id : Nat) (c : Channel) : Channel :=
  { c with subscriptions := c.subscriptions.filter (·.id ≠ id) }

/-- Nothing more is published; what is held can still be received. -/
def close (c : Channel) : Channel := { c with closed := true }

def subscription? (id : Nat) (c : Channel) : Option Subscription :=
  c.subscriptions.find? (·.id == id)

def moveTo (id position : Nat) (c : Channel) : Channel :=
  { c with
    subscriptions := c.subscriptions.map fun s => if s.id = id then ⟨id, position⟩ else s }

def oldest (c : Channel) : Nat := c.published - c.held.length

def receive (id : Nat) (c : Channel) : Reception × Channel :=
  match c.subscription? id with
  -- An unknown subscription finds the channel closed.
  | none => (.closed, c)
  | some s =>
    if s.position < c.oldest then (.lagged (c.oldest - s.position), c.moveTo id c.oldest)
    else
      match c.held[s.position - c.oldest]? with
      | some signal => (.received signal, c.moveTo id (s.position + 1))
      | none => (if c.closed then .closed else .pending, c)

/-- How many receptions are at most left before the subscription finds nothing. -/
def backlog (id : Nat) (c : Channel) : Nat :=
  match c.subscription? id with
  | none => 0
  | some s => c.held.length + if s.position < c.oldest then 1 else 0

end Channel

/-- A lag counts as one signal of unknown origin. -/
def Reception.signal? : Reception → Option Signal
  | received s => some s
  | lagged _ => some ⟨""⟩
  | pending | closed => none

end Entitlement
