import Entitlement.Database

/-!
# Pools of connections

A pool keeps the connections of one program to its database and lends them out, at most `capacity`
at a time. A connection that is given back is on its way for a moment: it still counts as lent, and
it becomes idle while the pool waits for the database the next time. Listeners keep theirs for good.
-/

namespace Entitlement

structure Pool where
  address : DatabaseAddress
  capacity : Nat
  -- How long to wait for a connection, in milliseconds.
  timeout : Nat
  closed : Bool := false
  -- Ready to be lent, the longest idle first.
  idle : List Nat := []
  -- Given back, and not idle yet.
  returning : List Nat := []
  -- Kept by their borrowers.
  held : List Nat := []
deriving DecidableEq, Repr, Inhabited

namespace Pool

def free (p : Pool) : Nat := p.capacity - (p.held.length + p.returning.length)

/-- Takes in the connections that are on their way. -/
def takeIn (p : Pool) (d : Database) : Pool × Database :=
  -- Those that ended are forgotten.
  let alive := p.returning.filter fun id => d.isOpen id
  if p.closed then ({ p with returning := [] }, d.disconnectAll alive)
  else ({ p with returning := [], idle := p.idle ++ alive }, d)

def connect (p : Pool) (d : Database) : Except DatabaseFailure Nat × Pool × Database :=
  if p.timeout = 0 then (.error .timedOut, p, d)
  else
    -- The connections on their way arrive meanwhile.
    let (connected, d) := d.connect p.address
    (connected, p.takeIn d)

/-- Lends the connection that has been idle for longest, or a new one. -/
def lend (p : Pool) (d : Database) : Except DatabaseFailure Nat × Pool × Database :=
  match p.idle with
  | [] => p.connect d
  | id :: rest =>
    let p := { p with idle := rest }
    if d.isOpen id then (.ok id, p.takeIn d) else p.connect d

def acquire (p : Pool) (d : Database) : Except DatabaseFailure Nat × Pool × Database :=
  if p.closed then (.error .poolClosed, p, d)
  else
    let (p, d) := if p.free = 0 then p.takeIn d else (p, d)
    if p.free = 0 then (.error .timedOut, p, d) else p.lend d

def release (id : Nat) (p : Pool) : Pool :=
  { p with held := p.held.erase id, returning := p.returning ++ [id] }

def hold (id : Nat) (p : Pool) : Pool := { p with held := p.held ++ [id] }

def forget (id : Nat) (p : Pool) : Pool := { p with held := p.held.erase id }

def send (s : Statement) (p : Pool) (d : Database) :
    Except DatabaseFailure (List Row) × Pool × Database :=
  match p.acquire d with
  | (.error cause, p, d) => (.error cause, p, d)
  | (.ok id, p, d) =>
    let (answer, d) := d.send id s
    (answer, p.release id, d)

/-- A pool with one connection, which shows that the address is right. -/
def opened (address : DatabaseAddress) (capacity timeout : Nat) (d : Database) :
    Except DatabaseFailure Pool × Database :=
  let p : Pool := { address, capacity, timeout }
  match p.acquire d with
  | (.error cause, _, d) => (.error cause, d)
  | (.ok id, p, d) => (.ok { p with idle := p.idle ++ [id] }, d)

def close (p : Pool) (d : Database) : Pool × Database :=
  -- Idle connections end at once, lent ones when they are given back.
  { p with closed := true, idle := [] }.takeIn (d.disconnectAll p.idle)

end Pool

end Entitlement
