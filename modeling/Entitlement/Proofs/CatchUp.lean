import Entitlement.Listener
import Entitlement.Proofs.Delivery

/-!
# Catching up after a gap

A listener whose connection is lost connects again when it looks at it the next time. If the first
attempt succeeds, it tells its subscribers of a change of unknown origin, which stands for whatever
they missed. If an attempt fails, it remembers only that it has no connection, and a later attempt
that succeeds says nothing. So whether a gap is made up for depends on the attempts in it.
-/

namespace Entitlement

namespace Database

variable {d : Database} {id : Nat}

/-- Notifications of the channel of this name reach the connection. -/
def Reaches (d : Database) (id : Nat) (name : String) : Prop :=
  ∃ c, d.connection? id = some c ∧ name ∈ c.listening

theorem isOpen_of_reaches {name : String} (reaches : d.Reaches id name) : d.isOpen id = true := by
  obtain ⟨c, found, -⟩ := reaches
  rw [isOpen, found]
  rfl

theorem connection?_modifyConnection (f : Connection → Connection) (same : ∀ c, (f c).id = c.id) :
    (d.modifyConnection id f).connection? id = (d.connection? id).map f := by
  have kept : ((fun c => c.id == id) ∘ fun c : Connection => if c.id = id then f c else c) =
      fun c => c.id == id := by
    funext c
    by_cases own : c.id = id <;> simp [own, same]
  simp only [connection?, modifyConnection, List.find?_map, kept]
  cases found : d.connections.find? fun c => c.id == id with
  | none => rfl
  | some c =>
    have own : c.id = id := by simpa using List.find?_some found
    simp [own]

@[simp] theorem connection?_enter (s : Statement) (outcome : StatementOutcome) (d : Database) :
    (d.enter s outcome).connection? id = d.connection? id := by
  unfold enter
  split <;> rfl

/-- A statement that is answered meets neither a fault nor an objection and is executed. -/
theorem executed_of_send {s : Statement} {rows : List Row} {later : Database}
    (sent : d.send id s = (.ok rows, later)) :
    d.isOpen id = true ∧ ∃ faults, later =
      ((({ d with faults } : Database).execute id s).2).enter s .succeeded := by
  unfold send at sent
  split at sent
  · cases sent
  next isOpen =>
    refine ⟨by simpa using isOpen, (Fault.strike (Text.includes s.text) d.faults).2, ?_⟩
    generalize Fault.strike (Text.includes s.text) d.faults = found at sent ⊢
    obtain ⟨struck, faults⟩ := found
    simp only at sent
    split at sent
    · cases sent
    · cases sent
    · split at sent
      · cases sent
      · exact (Prod.mk.inj sent).2.symm

theorem reaches_of_send {channel : String} {again : Bool} {rows : List Row} {later : Database}
    (sent : d.send id (.listen channel again) = (.ok rows, later)) :
    later.Reaches id (Statement.channelName channel) := by
  obtain ⟨isOpen, faults, rfl⟩ := executed_of_send sent
  obtain ⟨c, found⟩ := Option.isSome_iff_exists.mp isOpen
  refine ⟨{ c with listening := c.listening.insert (Statement.channelName channel) }, ?_, by simp⟩
  rw [connection?_enter, execute, connection?_modifyConnection]
  · exact congrArg (Option.map _) found
  · exact fun _ => rfl

theorem Reaches.readNotifications {name : String} (reaches : d.Reaches id name) :
    (d.readNotifications id).2.Reaches id name := by
  obtain ⟨c, found, listening⟩ := reaches
  refine ⟨{ c with unread := [] }, ?_, listening⟩
  rw [Database.readNotifications, found]
  simp only
  rw [connection?_modifyConnection, found]
  · rfl
  · exact fun _ => rfl

theorem isOpen_readNotifications (isOpen : d.isOpen id = true) :
    (d.readNotifications id).2.isOpen id = true := by
  obtain ⟨c, found⟩ := Option.isSome_iff_exists.mp isOpen
  rw [readNotifications, found, Database.isOpen]
  simp only
  rw [connection?_modifyConnection, found]
  · rfl
  · exact fun _ => rfl

end Database

namespace Listener

/-! ### One look -/

/-- Its connection is open. -/
def connected (l : Listener) (d : Database) : Bool := l.connection.any fun id => d.isOpen id

/-- Its connection is open, and the notifications of its channel reach it. -/
def Listens (l : Listener) (d : Database) : Prop :=
  ∃ id, l.connection = some id ∧ d.Reaches id (Statement.channelName l.channel)

theorem Listens.connected {l : Listener} {d : Database} (listens : l.Listens d) :
    l.connected d = true := by
  obtain ⟨id, own, reaches⟩ := listens
  rw [Listener.connected, own]
  exact Database.isOpen_of_reaches reaches

theorem connection_of_connected {l : Listener} {d : Database} (isConnected : l.connected d = true) :
    l.connection.isSome = true := by
  cases own : l.connection with
  | none => simp [connected, own] at isConnected
  | some id => rfl

/-- What a look at the connection can come to: the findings, the listener and the database. -/
inductive Looked (l : Listener) (p : Pool) (d : Database) :
    List Finding → Listener → Database → Prop
  | barred (closed : p.closed = true) : Looked l p d [.failed .poolClosed] l d
  | kept {payloads : List String} {later : Database} (available : p.closed = false)
      (before : l.connected d = true) (still : l.connected later = true) :
      Looked l p d (payloads.map .notified) l later
  | failed {cause : DatabaseFailure} {later : Database} (available : p.closed = false)
      (lost : l.connected d = false) :
      Looked l p d [.failed cause] { l with connection := none } later
  -- Only a loss that this look has found itself is told.
  | resumed {id : Nat} {payloads : List String} {later : Database} (available : p.closed = false)
      (lost : l.connected d = false) (listens : { l with connection := some id }.Listens later) :
      Looked l p d ((if l.connection.isNone then [] else [.reconnected]) ++
        payloads.map .notified) { l with connection := some id } later

theorem listen_reaches {again : Bool} {l : Listener} {p later : Pool} {d after : Database} {id : Nat}
    (listening : l.listen again p d = (.ok id, later, after)) :
    after.Reaches id (Statement.channelName l.channel) := by
  unfold listen at listening
  split at listening
  · cases listening
  next borrowed q e acquired =>
    split at listening
    next rows f sent =>
      simp only [Prod.mk.injEq, Except.ok.injEq] at listening
      obtain ⟨rfl, -, rfl⟩ := listening
      exact Database.reaches_of_send sent
    · cases listening

/-- An attempt to connect again. -/
theorem reconnect_cases (found : List Finding) (l : Listener) (p : Pool) (d : Database) :
    (∃ cause, (l.reconnect found p d).1 = [.failed cause] ∧ (l.reconnect found p d).2.1 = l) ∨
    ∃ id, ∃ payloads : List String, (l.reconnect found p d).1 = found ++ payloads.map .notified ∧
      (l.reconnect found p d).2.1 = { l with connection := some id } ∧
      { l with connection := some id }.Listens (l.reconnect found p d).2.2.2 := by
  unfold reconnect
  split
  next cause q e failed => exact .inl ⟨cause, rfl, rfl⟩
  next id q e listening =>
    right
    have reaches := listen_reaches listening
    refine ⟨id, (e.readNotifications id).1, rfl, rfl, id, rfl, ?_⟩
    exact reaches.readNotifications

theorem looked (l : Listener) (p : Pool) (d : Database) :
    Looked l p d (l.look p d).1 (l.look p d).2.1 (l.look p d).2.2.2 := by
  unfold look
  split
  next closed => exact .barred closed
  next notClosed =>
    have available : p.closed = false := by simpa using notClosed
    split
    next absent =>
      have lost : l.connected d = false := by simp [connected, absent]
      have unchanged : { l with connection := none } = l := by rw [← absent]
      rcases reconnect_cases [] l p d with
        ⟨cause, findings, same⟩ | ⟨id, payloads, findings, same, listens⟩
      · have failed : Looked l p d [.failed cause] _ (l.reconnect [] p d).2.2.2 :=
          .failed available lost
        rw [unchanged] at failed
        rw [findings, same]
        exact failed
      · have resumed : Looked l p d (_ ++ payloads.map .notified) _ _ :=
          .resumed available lost listens
        rw [absent] at resumed
        rw [findings, same]
        exact resumed
    next id own =>
      split
      next isOpen =>
        have before : l.connected d = true := by rw [connected, own]; exact isOpen
        have read : l.read d = ((d.readNotifications id).1.map .notified,
            (d.readNotifications id).2) := by
          rw [Listener.read, own]
        have still : l.connected (d.readNotifications id).2 = true := by
          rw [connected, own]
          exact Database.isOpen_readNotifications isOpen
        rw [read]
        exact .kept available before still
      next gone =>
        have lost : l.connected d = false := by rw [connected, own]; simpa using gone
        rcases reconnect_cases [.reconnected] { l with connection := none } (p.forget id) d with
          ⟨cause, findings, same⟩ | ⟨fresh, payloads, findings, same, listens⟩
        · rw [findings, same]
          exact .failed available lost
        · have resumed : Looked l p d (_ ++ payloads.map .notified) _ _ :=
            .resumed available lost listens
          rw [own] at resumed
          rw [findings, same]
          exact resumed

/-! ### What it does with the findings -/

theorem connection_hear (now : Nat) (l : Listener) (findings : List Finding) :
    (findings.foldl (hear now) l).connection = l.connection := by
  induction findings generalizing l with
  | nil => rfl
  | cons found rest ih =>
    rw [List.foldl_cons, ih]
    cases found <;> rfl

theorem channel_hear (now : Nat) (l : Listener) (findings : List Finding) :
    (findings.foldl (hear now) l).channel = l.channel := by
  induction findings generalizing l with
  | nil => rfl
  | cons found rest ih =>
    rw [List.foldl_cons, ih]
    cases found <;> rfl

theorem connected_hear (now : Nat) (l : Listener) (findings : List Finding) (d : Database) :
    (findings.foldl (hear now) l).connected d = l.connected d := by
  rw [connected, connected, connection_hear]

/-- Publishes the signals one after the other. -/
def relay (signals : List Signal) (outlet : Channel) : Channel :=
  signals.foldl (fun c s => c.publish s) outlet

theorem sound_relay {outlet : Channel} (sound : outlet.Sound) (signals : List Signal) :
    (relay signals outlet).Sound := by
  induction signals generalizing outlet with
  | nil => exact sound
  | cons s rest ih => exact ih (sound.publish s)

theorem awaits_relay {outlet : Channel} {sub : Nat} {s : Signal} (sound : outlet.Sound)
    (awaits : outlet.Awaits sub s) (signals : List Signal) :
    (relay signals outlet).Awaits sub s := by
  induction signals generalizing outlet with
  | nil => exact awaits
  | cons other rest ih => exact ih (sound.publish other) (awaits.publish sound other)

theorem outlet_hear (now : Nat) (l : Listener) (findings : List Finding) :
    (findings.foldl (hear now) l).outlet = relay (findings.filterMap Finding.signal?) l.outlet := by
  induction findings generalizing l with
  | nil => rfl
  | cons found rest ih =>
    rw [List.foldl_cons, ih]
    cases found <;> rfl

theorem wake_of_due {now : Nat} {l : Listener} (due : l.isDue now = true) (p : Pool) (d : Database) :
    ∃ findings looking later, Looked { l with due := none } p d findings looking later ∧
      (l.wake now p d).2.1 = findings.foldl (hear now) looking ∧
      (l.wake now p d).2.2.2 = later := by
  refine ⟨_, _, _, looked { l with due := none } p d, ?_, ?_⟩ <;> simp [wake, due]

/-! ### Runs -/

/-- What can happen to a listener: it is woken, whatever its pool and its database are like then, or
somebody subscribes to what it hands on, or reads it. -/
inductive Moment where
  | wakes (now : Nat) (p : Pool) (d : Database)
  | subscribes
  | unsubscribes (id : Nat)
  | receives (id : Nat)

def take (l : Listener) : Moment → Listener
  | .wakes now p d => (l.wake now p d).2.1
  | .subscribes => { l with outlet := l.outlet.subscribe.2 }
  | .unsubscribes id => { l with outlet := l.outlet.unsubscribe id }
  | .receives id => { l with outlet := (l.outlet.receive id).2 }

def after (l : Listener) (moments : List Moment) : Listener := moments.foldl take l

/-- A look that leaves the listener without an open connection is an attempt to connect that has
failed; in a closed pool there is no attempt. -/
def misses (l : Listener) (missed : Bool) : Moment → Bool
  | .wakes now p d =>
    if l.isDue now && !p.closed then !(l.wake now p d).2.1.connected (l.wake now p d).2.2.2
    else missed
  | _ => missed

/-- Whether an attempt to connect has failed since the connection was last seen open. -/
def missed (l : Listener) (before : Bool) : List Moment → Bool
  | [] => before
  | m :: rest => (l.take m).missed (l.misses before m) rest

theorem misses_eq {l : Listener} {before : Bool} (own : before = l.connection.isNone) (m : Moment) :
    l.misses before m = (l.take m).connection.isNone := by
  cases m with
  | subscribes => exact own
  | unsubscribes => exact own
  | receives => exact own
  | wakes now p d =>
    simp only [misses, take]
    cases due : l.isDue now with
    | false => simpa [wake, due] using own
    | true =>
      obtain ⟨findings, looking, later, looked, heard, same⟩ := wake_of_due due p d
      rw [heard, same, connected_hear, connection_hear]
      cases looked with
      | barred closed => simpa [closed] using own
      | kept available before still =>
        simp [available, still, connection_of_connected still]
      | failed available lost => simp [available, connected]
      | resumed available lost listens => simp [available, listens.connected]

/-- Without a connection at hand, an attempt has failed, and the other way round. -/
theorem missed_eq {l : Listener} {before : Bool} (own : before = l.connection.isNone)
    (moments : List Moment) : l.missed before moments = (l.after moments).connection.isNone := by
  induction moments generalizing l before with
  | nil => exact own
  | cons m rest ih => exact ih (misses_eq own m)

theorem sound_take {l : Listener} (sound : l.outlet.Sound) (m : Moment) :
    (l.take m).outlet.Sound := by
  cases m with
  | subscribes => exact sound.subscribe
  | unsubscribes id => exact sound.unsubscribe id
  | receives id => exact sound.receive id
  | wakes now p d =>
    simp only [take]
    cases due : l.isDue now with
    | false => simpa [wake, due] using sound
    | true =>
      obtain ⟨findings, looking, later, looked, heard, -⟩ := wake_of_due due p d
      rw [heard, outlet_hear]
      apply sound_relay
      cases looked <;> exact sound

theorem sound_after {l : Listener} (sound : l.outlet.Sound) (moments : List Moment) :
    (l.after moments).outlet.Sound := by
  induction moments generalizing l with
  | nil => exact sound
  | cons m rest ih => exact ih (sound_take sound m)

theorem exists_of_started {pool : Nat} {channel : String} {p : Pool} {d : Database}
    {begun : Listener} (started : (start pool channel p d).1 = .ok begun) :
    ∃ id, begun = { pool, channel, outlet := .opened capacity, connection := some id } := by
  unfold start at started
  simp only at started
  generalize listen false { pool, channel, outlet := .opened capacity } p d = listening at started
  obtain ⟨answer, q, e⟩ := listening
  cases answer with
  | error cause => cases started
  | ok id => exact ⟨id, (Except.ok.inj started).symm⟩

/-! ### The end of a gap -/

/-- A listener that was started comes to a look that finds its connection lost and ends with
another one in its place. Then it listens again, and it hands on a signal of unknown origin, before
whatever it reads on the new connection, if and only if no attempt to connect has failed in the gap.
If it does, every subscription finds that signal, or finds that it lags, among what it can receive
without waiting. -/
theorem outlet_of_resumed {pool : Nat} {channel : String} {p₀ : Pool} {d₀ : Database}
    {begun : Listener} (started : (start pool channel p₀ d₀).1 = .ok begun) (moments : List Moment)
    {now : Nat} {p : Pool} {d : Database} (due : (begun.after moments).isDue now = true)
    (available : p.closed = false) (gap : (begun.after moments).connected d = false)
    (resumed : ((begun.after moments).wake now p d).2.1.connected
      ((begun.after moments).wake now p d).2.2.2 = true) :
    let missed := begun.missed false moments
    let outlet := (begun.after moments).outlet
    let later := ((begun.after moments).wake now p d).2.1
    later.Listens ((begun.after moments).wake now p d).2.2.2 ∧
    (∃ payloads : List String, later.outlet =
      relay ((if missed then [] else [⟨""⟩]) ++ payloads.map Signal.decode) outlet) ∧
    (missed = false → ∀ sub, (outlet.subscription? sub).isSome →
      ∃ reception ∈ later.outlet.receptions sub (later.outlet.backlog sub),
        reception.signal? = some ⟨""⟩) := by
  obtain ⟨first, rfl⟩ := exists_of_started started
  intro missed outlet later
  have own : missed = (after _ moments).connection.isNone :=
    missed_eq rfl moments
  have sound : outlet.Sound := sound_after (Channel.sound_opened capacity) moments
  obtain ⟨findings, looking, database, looked, heard, same⟩ := wake_of_due due p d
  rw [heard, same, connected_hear] at resumed
  cases looked with
  | barred closed =>
    rw [closed] at available
    cases available
  | kept _ before =>
    have before : (after _ moments).connected d = true := before
    rw [before] at gap
    cases gap
  | failed => simp [connected] at resumed
  | @resumed id payloads _ available lost listens =>
    have told : later.outlet =
        relay ((if missed then [] else [⟨""⟩]) ++ payloads.map Signal.decode) outlet := by
      have signals : (payloads.map Finding.notified).filterMap Finding.signal? =
          payloads.map Signal.decode := by
        rw [List.filterMap_map]
        exact congrFun (List.filterMap_eq_map (f := Signal.decode)) payloads
      simp only [later, heard, outlet_hear, List.filterMap_append, signals, own]
      cases (after _ moments).connection <;> rfl
    refine ⟨?_, ⟨payloads, told⟩, ?_⟩
    · obtain ⟨id, held, reaches⟩ := listens
      refine ⟨id, ?_, ?_⟩
      · simp only [later, heard, connection_hear]
        exact held
      · simp only [later, heard, channel_hear, same]
        exact reaches
    · intro first sub live
      obtain ⟨receiver, found⟩ := Option.isSome_iff_exists.mp live
      rw [told, first]
      apply Channel.Awaits.exists_reception
      exact awaits_relay (sound.publish _) (Channel.awaits_publish sound _ found) _

/-- A database, and what is left of it when its connections are lost. -/
def gapped (d : Database) (refusal : Option ServerError := none) : Database :=
  { d with connections := [], refusal }

def commonPool : Pool := { address := ({} : Database).address, capacity := 5, timeout := 1000 }

/-- Its first connection is number 0. -/
def attentive : Listener :=
  { pool := 0, channel := "policy", outlet := .opened capacity, connection := some 0 }

theorem started_attentive : (start 0 "policy" commonPool {}).1 = .ok attentive := by rfl

/-- The connection is lost and the first attempt succeeds: the subscriber is told. -/
theorem outlet_of_resumed_at_once :
    ∃ reception ∈ ((attentive.after [.subscribes]).wake 0 commonPool (gapped {})).2.1.outlet.receptions
        0 (((attentive.after [.subscribes]).wake 0 commonPool (gapped {})).2.1.outlet.backlog 0),
      reception.signal? = some ⟨""⟩ := by
  have due : (attentive.after [.subscribes]).isDue 0 = true := by decide +kernel
  have gap : (attentive.after [.subscribes]).connected (gapped {}) = false := by decide +kernel
  have resumed : ((attentive.after [.subscribes]).wake 0 commonPool (gapped {})).2.1.connected
      ((attentive.after [.subscribes]).wake 0 commonPool (gapped {})).2.2.2 = true := by
    decide +kernel
  have first : attentive.missed false [.subscribes] = false := by decide +kernel
  have live : ((attentive.after [.subscribes]).outlet.subscription? 0).isSome := by decide +kernel
  exact (outlet_of_resumed started_attentive [.subscribes] due rfl gap resumed).2.2 first 0 live

/-- The first attempt is refused, and the second, once the pause is over, succeeds: the connection
listens again, and nobody is told. -/
theorem outlet_of_resumed_late :
    let refused : Database := gapped {} (some ⟨"28000", "refused"⟩)
    let l := attentive.after [.subscribes, .wakes 0 commonPool refused]
    let later := l.wake (timerEnd 0 pause) commonPool (gapped {})
    (start 0 "policy" commonPool {}).1 = .ok attentive ∧
      l.isDue pause = false ∧ l.isDue (timerEnd 0 pause) = true ∧
      l.connected (gapped {}) = false ∧
      later.2.1.connected later.2.2.2 = true ∧ later.2.2.2.listenerCount "policy" = 1 ∧
      later.2.1.outlet.receptions 0 64 = List.replicate 64 .pending := by
  refine ⟨started_attentive, ?_, ?_, ?_, ?_, ?_, ?_⟩ <;> decide +kernel

end Listener

end Entitlement
