import Entitlement.Channel
import Entitlement.Event
import Entitlement.Pool
import Entitlement.Wire

/-!
# Listeners

A listener keeps one connection of a pool on which it awaits the notifications of a channel of the
database, and hands each of them on to its own subscribers as a signal. When it finds that the
connection has ended, it connects again at once and, having missed what was sent meanwhile, tells
its subscribers of a change of unknown origin. When it cannot connect, it waits and tries again; a
later success is not told.
-/

namespace Entitlement

/-- When a timer that is set now goes off. It counts whole milliseconds, and the one that has
already begun does not count. -/
def timerEnd (now ms : Nat) : Nat := now + ms + 1

structure Listener where
  -- The number of its pool.
  pool : Nat
  -- The channel in the database.
  channel : String
  -- What its subscribers read.
  outlet : Channel
  connection : Option Nat := none
  -- After a failure, the time of the next attempt.
  due : Option Nat := none
deriving DecidableEq, Repr, Inhabited

inductive Finding where
  | notified (payload : String)
  -- The connection had ended, and another one listens in its place.
  | reconnected
  | failed (cause : DatabaseFailure)
deriving DecidableEq, Repr, Inhabited

namespace Finding

def signal? : Finding → Option Signal
  | notified payload => some (Signal.decode payload)
  | reconnected => some ⟨""⟩
  | failed _ => none

def traces (channel : String) : Finding → List Trace
  | notified _ => []
  | reconnected => [.event (.listenerReconnecting channel)]
  | failed cause => [.counted .listenerErrors, .event (.listenerFailed channel cause.message)]

end Finding

namespace Listener

def capacity : Nat := 64

/-- How long to wait after a failure, in milliseconds. -/
def pause : Nat := 500

/-- Listens over a connection of the pool and keeps it. -/
def listen (again : Bool) (l : Listener) (p : Pool) (d : Database) :
    Except DatabaseFailure Nat × Pool × Database :=
  match p.acquire d with
  | (.error cause, p, d) => (.error cause, p, d)
  | (.ok id, p, d) =>
    match d.send id (.listen l.channel again) with
    | (.ok _, d) => (.ok id, p.hold id, d)
    -- The connection goes back.
    | (.error cause, d) =>
      let d := if again then d else (d.send id .unlisten).2
      (.error cause, p.release id, d)

def start (pool : Nat) (channel : String) (p : Pool) (d : Database) :
    Except DatabaseFailure Listener × Pool × Database :=
  let l : Listener := { pool, channel, outlet := .opened capacity }
  let (listening, p, d) := l.listen false p d
  (listening.map fun id => { l with connection := some id }, p, d)

def stop (l : Listener) (p : Pool) (d : Database) : Listener × Pool × Database :=
  let stopped := { l with outlet := l.outlet.close, connection := none, due := none }
  match l.connection with
  | none => (stopped, p, d)
  | some id => (stopped, p.release id, (d.send id .unlisten).2)

def read (l : Listener) (d : Database) : List Finding × Database :=
  match l.connection with
  | none => ([], d)
  | some id =>
    let (payloads, d) := d.readNotifications id
    (payloads.map .notified, d)

/-- Looks for another connection; `found` is what there is to say about a success. -/
def reconnect (found : List Finding) (l : Listener) (p : Pool) (d : Database) :
    List Finding × Listener × Pool × Database :=
  match l.listen true p d with
  | (.error cause, p, d) => ([.failed cause], l, p, d)
  | (.ok id, p, d) =>
    let l := { l with connection := some id }
    let (waiting, d) := l.read d
    (found ++ waiting, l, p, d)

def look (l : Listener) (p : Pool) (d : Database) : List Finding × Listener × Pool × Database :=
  -- In a closed pool it may not even look at its connection.
  if p.closed then ([.failed .poolClosed], l, p, d)
  else
    match l.connection with
    | none => l.reconnect [] p d
    | some id =>
      if d.isOpen id then
        let (waiting, d) := l.read d
        (waiting, l, p, d)
      else { l with connection := none }.reconnect [.reconnected] (p.forget id) d

def hear (now : Nat) (l : Listener) (f : Finding) : Listener :=
  match f, f.signal? with
  | .failed _, _ => { l with due := some (timerEnd now pause) }
  | _, some s => { l with outlet := l.outlet.publish s }
  | _, none => l

/-- A listener that was stopped or that waits does nothing. -/
def isDue (now : Nat) (l : Listener) : Bool :=
  !l.outlet.closed && l.due.all (· ≤ now)

def wake (now : Nat) (l : Listener) (p : Pool) (d : Database) :
    List Trace × Listener × Pool × Database :=
  if l.isDue now then
    let (findings, l, p, d) := { l with due := none }.look p d
    (findings.flatMap (·.traces l.channel), findings.foldl (hear now) l, p, d)
  else ([], l, p, d)

end Listener

end Entitlement
