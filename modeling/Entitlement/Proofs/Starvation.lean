import Entitlement.Cluster.Start
import Entitlement.Proofs.Backend
import Entitlement.Proofs.JsonText
import Entitlement.Proofs.Supply

/-!
# Whether the listener starves the store

A replica whose signals go through the database takes one connection of its pool for its listener
and keeps it, and everything else that needs the database shares the others. Where there are others,
no request waits in vain. Where there is none, a store in the database cannot even be read for the
first index, and with a store in memory no signal is ever sent.
-/

namespace Entitlement

/-- Whether the facts are kept in the database, over the only pool, or in memory. -/
def Backing.Over (durable : Bool) : Backing → Prop
  | .pool number => durable = true ∧ number = 0
  | .memory _ => durable = false

theorem map_mapError {α β ε τ : Type} (answer : Except ε α) (wrap : ε → τ) (form : α → β) :
    (answer.mapError wrap).map form = (answer.map form).mapError wrap := by
  cases answer <;> rfl

/-! ### What is sent for a signal -/

/-- A null character is written by its number. -/
theorem Json.null_not_mem_escaped (c : Char) : '\x00' ∉ Json.escaped c := by
  rcases Json.escaped_cases c with ⟨mark, written, -, short⟩ | ⟨written, control⟩ |
    ⟨written, -, -, visible⟩
  · have notNull : mark ≠ '\x00' := by
      rintro rfl
      cases short
    simp [written, notNull.symm]
  · have digits : ∀ n < 16, Nat.digitChar n ≠ '\x00' := by decide
    have last := (digits (c.toNat % 16) (Nat.mod_lt _ (by decide))).symm
    rw [written, Json.controlDigits]
    split <;> simp [last]
  · have notNull : c ≠ '\x00' := by
      rintro rfl
      exact visible (by decide)
    simp [written, notNull.symm]

theorem Json.null_not_mem_quoted (text : String) : '\x00' ∉ Json.quoted text := by
  simp [Json.quoted, Json.null_not_mem_escaped]

theorem Signal.hasNull_encode (s : Signal) : Database.hasNull s.encode = false := by
  have origin := Json.null_not_mem_quoted s.origin
  have key := Json.null_not_mem_quoted "origin"
  rw [Database.hasNull, Bool.eq_false_iff, ne_eq, List.contains_iff_mem]
  simp [Signal.encode, Wire.encode, Wire.toJson, Json.record, Json.text, Json.render, Json.chars,
    Json.membersChars, origin, key]

/-- All that every database has against a signal is the name of its channel. -/
theorem Signal.objection?_notify {channel : String} (named : channel ≠ "") (s : Signal) :
    (Statement.notify channel s.encode).objection? =
      if Database.hasNull channel then
        some ⟨"22021", "invalid byte sequence for encoding \"UTF8\": 0x00"⟩
      else none := by
  simp only [Statement.objection?, Statement.parameters, List.any_cons, List.any_nil,
    Option.map_some, Option.getD_some, s.hasNull_encode, Bool.or_false]
  split
  next => rfl
  next =>
    split
    next same =>
      cases same
      exact absurd rfl named
    next => rfl

namespace Cluster

variable {objects : Statement → Option ServerError} {c : Cluster} {capacity : Nat} {durable : Bool}
  {channel : String}

/-- The only replica works with the only pool, and its listener has a connection of it. -/
structure Engaged (objects : Statement → Option ServerError) (capacity : Nat) (durable : Bool)
    (channel : String) (c : Cluster) : Prop where
  lent : ∃ p l, c.pools = [p] ∧ c.listeners = [l] ∧ p.capacity = capacity ∧ l.pool = 0 ∧
    l.channel = channel ∧ l.Retains p c.database
  node : ∃ n, c.nodes = [n] ∧ n.outlet = .listener 0 ∧ n.backing.Over durable
  watches : ∀ w ∈ c.watches, w.node = 0
  objections : c.database.objection? = objects

namespace Engaged

theorem note (engaged : c.Engaged objects capacity durable channel) (t : Trace) :
    (c.note t).Engaged objects capacity durable channel :=
  ⟨engaged.lent, engaged.node, engaged.watches, engaged.objections⟩

theorem noteAll (engaged : c.Engaged objects capacity durable channel) (traces : List Trace) :
    (c.noteAll traces).Engaged objects capacity durable channel := by
  induction traces generalizing c with
  | nil => exact engaged
  | cons t rest ih => exact ih (engaged.note t)

/-! ### The channel -/

theorem modifyChannel (engaged : c.Engaged objects capacity durable channel)
    (g : Channel → Channel) :
    (c.modifyChannel 0 g).Engaged objects capacity durable channel := by
  obtain ⟨p, l, pools, listeners, size, number, named, retains⟩ := engaged.lent
  obtain ⟨n, nodes, outlet, backing⟩ := engaged.node
  have changed : c.modifyChannel 0 g =
      { c with listeners := [{ l with outlet := g l.outlet }] } := by
    simp [Cluster.modifyChannel, Cluster.node, nodes, outlet, listeners]
  rw [changed]
  exact ⟨⟨p, _, pools, rfl, size, number, named, retains.of_outlet _⟩, engaged.node,
    engaged.watches, engaged.objections⟩

theorem receive (engaged : c.Engaged objects capacity durable channel) (subscription : Nat) :
    (c.receive 0 subscription).2.Engaged objects capacity durable channel := by
  unfold Cluster.receive
  simp only
  split
  · exact (engaged.modifyChannel _).note _
  · exact engaged.modifyChannel _

/-! ### The node -/

theorem modifyNode (engaged : c.Engaged objects capacity durable channel) {g : Node → Node}
    (outlet : ∀ n, (g n).outlet = n.outlet)
    (backing : ∀ n : Node, n.backing.Over durable → (g n).backing.Over durable) :
    (c.modifyNode 0 g).Engaged objects capacity durable channel := by
  obtain ⟨n, nodes, itsOutlet, itsBacking⟩ := engaged.node
  have changed : c.modifyNode 0 g = { c with nodes := [g n] } := by
    simp [Cluster.modifyNode, nodes]
  rw [changed]
  exact ⟨engaged.lent, ⟨g n, rfl, (outlet n).trans itsOutlet, backing n itsBacking⟩,
    engaged.watches, engaged.objections⟩

/-! ### Time -/

theorem wait (engaged : c.Engaged objects capacity durable channel) (ms : Nat) :
    (c.wait ms).Engaged objects capacity durable channel := by
  obtain ⟨p, l, -, listeners, -, -, -, retains⟩ := engaged.lent
  -- Nobody is due, so the clock runs through.
  have idle : c.wait ms = { c with clock := timerEnd c.clock ms } := by
    rw [Cluster.wait]
    cases c.listeners.length * (ms / Listener.pause + 1) with
    | zero => rfl
    | succ rounds => simp [runClock, nextDue?, listeners, retains.due]
  rw [idle]
  exact ⟨engaged.lent, engaged.node, engaged.watches, engaged.objections⟩

theorem wakeListeners (engaged : c.Engaged objects capacity durable channel) :
    c.wakeListeners.Engaged objects capacity durable channel := by
  obtain ⟨p, l, pools, listeners, size, number, named, retains⟩ := engaged.lent
  obtain ⟨traces, outlet, e, woken, sustains⟩ := retains.wake c.clock
  have changed : c.wakeListeners =
      ({ c with listeners := [{ l with outlet }], pools := [p], database := e }).noteAll
        traces := by
    simp [Cluster.wakeListeners, wakeListener, listeners, pools, number, woken, List.range_succ]
  rw [changed]
  apply noteAll
  exact ⟨⟨p, _, rfl, rfl, size, number, named, (retains.of_sustains sustains).of_outlet _⟩,
    engaged.node, engaged.watches, sustains.objections.trans engaged.objections⟩

/-- What others do to the database is nothing to the pool. -/
theorem elsewhere (engaged : c.Engaged objects capacity durable channel) {d : Database}
    (sustains : c.database.Sustains d) :
    { c with database := d }.Engaged objects capacity durable channel := by
  obtain ⟨p, l, pools, listeners, size, number, named, retains⟩ := engaged.lent
  exact ⟨⟨p, l, pools, listeners, size, number, named, retains.of_sustains sustains⟩,
    engaged.node, engaged.watches, sustains.objections.trans engaged.objections⟩

/-! ### Statements -/

theorem send (engaged : c.Engaged objects capacity durable channel) (positive : 0 < capacity)
    (s : Statement) :
    (c.send 0 s).2.Engaged objects capacity durable channel ∧
      if capacity = 1 then (c.send 0 s).1 = .error .timedOut
      else ((c.send 0 s).1.map fun _ => ()) = Database.verdict objects s := by
  obtain ⟨p, l, pools, listeners, size, number, named, retains⟩ := engaged.lent
  have found : c.pools[0]? = some p := by rw [pools]; rfl
  have replaced (q : Pool) (d : Database) :
      (c.setPool 0 q d) = { c with pools := [q], database := d } := by
    simp [setPool, pools]
  have later {q : Pool} {d : Database} (sameSize : q.capacity = p.capacity)
      (still : l.Retains q d) (sustains : c.database.Sustains d) :
      (c.setPool 0 q d).Engaged objects capacity durable channel := by
    rw [replaced]
    exact ⟨⟨q, l, rfl, listeners, sameSize.trans size, number, named, still⟩, engaged.node,
      engaged.watches, sustains.objections.trans engaged.objections⟩
  by_cases single : capacity = 1
  · obtain ⟨q, sent, sameSize, still⟩ := retains.send_of_single (size.trans single) s
    have inVain : c.send 0 s = (.error .timedOut, (c.setPool 0 q c.database).wait q.timeout) := by
      simp only [Cluster.send, found, sent]
    rw [inVain, if_pos single]
    exact ⟨(later sameSize still (.refl _)).wait _, rfl⟩
  · have roomy : 2 ≤ p.capacity := by omega
    obtain ⟨answer, q, d, sent, answered, sameSize, still, sustains⟩ :=
      retains.send_of_roomy roomy s
    rw [engaged.objections] at answered
    have inTime : answer ≠ .error .timedOut := by
      rintro rfl
      unfold Database.verdict at answered
      split at answered <;> cases answered
    have arrived : c.send 0 s = (answer, c.setPool 0 q d) := by
      simp only [Cluster.send, found, sent]
    rw [arrived, if_neg single]
    exact ⟨later sameSize still sustains, answered⟩

/-! ### Actions -/

theorem belongs (engaged : c.Engaged objects capacity durable channel) :
    (c.node 0).backing.Over durable := by
  obtain ⟨n, nodes, -, backing⟩ := engaged.node
  simpa [Cluster.node, nodes] using backing

theorem pool_eq (engaged : c.Engaged objects capacity durable channel) {number : Nat}
    (backing : (c.node 0).backing = .pool number) : durable = true ∧ number = 0 := by
  have belongs := engaged.belongs
  rwa [backing] at belongs

theorem volatile (engaged : c.Engaged objects capacity durable channel) {relations : Relations}
    (backing : (c.node 0).backing = .memory relations) : durable = false := by
  have belongs := engaged.belongs
  rwa [backing] at belongs

theorem outlet (engaged : c.Engaged objects capacity durable channel) :
    (c.node 0).outlet = .listener 0 := by
  obtain ⟨n, nodes, outlet, -⟩ := engaged.node
  simpa [Cluster.node, nodes] using outlet

/-- A signal is a statement. -/
theorem publish_eq (engaged : c.Engaged objects capacity durable channel) (s : Signal) :
    c.publish 0 s =
      (((c.send 0 (.notify channel s.encode)).1.mapError
        DatabaseFailure.toSignalFailure).map fun _ => (),
      (c.send 0 (.notify channel s.encode)).2) := by
  obtain ⟨p, l, -, listeners, -, number, named, -⟩ := engaged.lent
  have found : c.listeners[0]? = some l := by rw [listeners]; rfl
  simp only [Cluster.publish, engaged.outlet, Cluster.notify, found, number, named]

theorem handler (engaged : c.Engaged objects capacity durable channel) (positive : 0 < capacity)
    (a : Action) : (Cluster.handler 0 a c).2.Engaged objects capacity durable channel := by
  cases a with
  | write change fact =>
    simp only [Cluster.handler, Cluster.write]
    split
    next number backing =>
      obtain ⟨-, rfl⟩ := engaged.pool_eq backing
      exact (engaged.send positive _).1
    next relations backing =>
      exact engaged.modifyNode (fun _ => rfl) fun _ _ => engaged.volatile backing
  | query pattern =>
    simp only [Cluster.handler, Cluster.query]
    split
    next number backing =>
      obtain ⟨-, rfl⟩ := engaged.pool_eq backing
      exact (engaged.send positive _).1
    next => exact engaged
  | probe =>
    simp only [Cluster.handler, Cluster.probe]
    split
    next number backing =>
      obtain ⟨-, rfl⟩ := engaged.pool_eq backing
      exact (engaged.send positive _).1
    next => exact engaged
  | publish s =>
    rw [Cluster.handler, engaged.publish_eq]
    exact (engaged.send positive _).1
  | subscribe => exact engaged.modifyChannel _
  | unsubscribe id => exact engaged.modifyChannel _
  | register record => exact engaged.modifyNode (fun _ => rfl) fun _ belongs => belongs
  | listing w => exact engaged
  | acquireLock => exact engaged
  | releaseLock => exact engaged
  | readIndex => exact engaged
  | swapIndex index => exact engaged.modifyNode (fun _ => rfl) fun _ belongs => belongs
  | note t => exact engaged.note t

theorem run_handler {α : Type} (engaged : c.Engaged objects capacity durable channel)
    (positive : 0 < capacity) (call : Call α) :
    (call.run (Cluster.handler 0) c).2.Engaged objects capacity durable channel := by
  induction call generalizing c with
  | done value => exact engaged
  | act a next ih => exact ih _ (engaged.handler positive a)

/-! ### Watchers -/

theorem endWatch (engaged : c.Engaged objects capacity durable channel) {w : Watch}
    (own : w.node = 0) :
    (c.endWatch w).Engaged objects capacity durable channel := by
  have fewer : { c with watches := c.watches.filter (· ≠ w) }.Engaged objects capacity durable
      channel :=
    ⟨engaged.lent, engaged.node, fun v had => engaged.watches v (List.mem_filter.mp had).1,
      engaged.objections⟩
  rw [Cluster.endWatch, own]
  exact (fewer.modifyChannel _).note _

theorem stepWatch (engaged : c.Engaged objects capacity durable channel) (positive : 0 < capacity)
    {w : Watch} (own : w.node = 0) :
    (c.stepWatch w).2.Engaged objects capacity durable channel := by
  have received := engaged.receive w.subscription
  unfold Cluster.stepWatch
  rw [own]
  simp only
  split
  · exact received.run_handler positive _
  · exact received.endWatch own
  · split
    · exact received.endWatch own
    · exact received

theorem drain (engaged : c.Engaged objects capacity durable channel) (positive : 0 < capacity)
    {w : Watch} (own : w.node = 0) (steps : Nat) :
    (c.drain w steps).Engaged objects capacity durable channel := by
  induction steps generalizing c with
  | zero => exact engaged
  | succ steps ih =>
    have stepped := engaged.stepWatch positive own
    unfold Cluster.drain
    split
    next goesOn =>
      rw [goesOn] at stepped
      exact ih stepped
    next stops =>
      rw [stops] at stepped
      exact stepped

theorem work (engaged : c.Engaged objects capacity durable channel) (positive : 0 < capacity) :
    c.work.Engaged objects capacity durable channel := by
  have woken := engaged.wakeListeners
  have drained (watches : List Watch) {c : Cluster} (own : ∀ w ∈ watches, w.node = 0)
      (engaged : c.Engaged objects capacity durable channel) :
      (watches.foldl (fun c w => c.drain w ((c.channelOf w.node).backlog w.subscription + 1))
        c).Engaged objects capacity durable channel := by
    induction watches generalizing c with
    | nil => exact engaged
    | cons w rest ih =>
      obtain ⟨here, others⟩ := List.forall_mem_cons.mp own
      exact ih others (engaged.drain positive here _)
  exact drained _ woken.watches woken

theorem waited (engaged : c.Engaged objects capacity durable channel) (positive : 0 < capacity)
    (a : Action) :
    (if c.waits 0 a then c.work else c).Engaged objects capacity durable channel := by
  split
  · exact engaged.work positive
  · exact engaged

theorem callHandler (engaged : c.Engaged objects capacity durable channel) (positive : 0 < capacity)
    (a : Action) : (Cluster.callHandler 0 a c).2.Engaged objects capacity durable channel :=
  (engaged.waited positive a).handler positive a

theorem run {α : Type} (engaged : c.Engaged objects capacity durable channel)
    (positive : 0 < capacity) (attempt : Attempt α) :
    (c.run 0 attempt).2.Engaged objects capacity durable channel := by
  unfold Cluster.run
  induction attempt.run generalizing c with
  | done value => exact engaged
  | act a next ih => exact ih _ (engaged.callHandler positive a)

theorem takeInAll (engaged : c.Engaged objects capacity durable channel) :
    c.takeInAll.Engaged objects capacity durable channel := by
  obtain ⟨p, l, pools, listeners, size, number, named, retains⟩ := engaged.lent
  obtain ⟨q, taken, terms⟩ := Pool.takeIn_of_open retains.isOpen c.database
  have arrived := retains.tidy.takeIn retains.isOpen
  rw [taken] at arrived
  have changed : c.takeInAll = { c with pools := [q] } := by
    simp [Cluster.takeInAll, pools, taken, setPool, List.range_succ]
  rw [changed]
  exact ⟨⟨q, l, rfl, listeners, terms.capacity.trans size, number, named,
    retains.of_sameTerms terms arrived⟩, engaged.node, engaged.watches, engaged.objections⟩

/-! ### What is answered -/

theorem answered (engaged : c.Engaged objects capacity durable channel) (roomy : 2 ≤ capacity)
    (s : Statement) : ((c.send 0 s).1.map fun _ => ()) = Database.verdict objects s := by
  have answered := (engaged.send (by omega) s).2
  rwa [if_neg (by omega)] at answered

theorem write_of_roomy (engaged : c.Engaged objects capacity durable channel)
    (roomy : 2 ≤ capacity) (change : Change) (fact : Fact) :
    (c.write 0 change fact).1 =
      if durable then
        (Database.verdict objects (.ofWrite change fact)).mapError DatabaseFailure.toStoreFailure
      else .ok () := by
  unfold Cluster.write
  split
  next number backing =>
    obtain ⟨rfl, rfl⟩ := engaged.pool_eq backing
    rw [if_pos rfl, ← engaged.answered roomy]
    exact map_mapError _ _ _
  next relations backing =>
    rw [engaged.volatile backing]
    rfl

theorem query_of_roomy (engaged : c.Engaged objects capacity durable channel)
    (roomy : 2 ≤ capacity) (pattern : FactPattern) :
    ((c.query 0 pattern).1.map fun _ => ()) =
      if durable then
        (Database.verdict objects (.ofQuery pattern)).mapError DatabaseFailure.toStoreFailure
      else .ok () := by
  unfold Cluster.query
  split
  next number backing =>
    obtain ⟨rfl, rfl⟩ := engaged.pool_eq backing
    rw [if_pos rfl, ← engaged.answered roomy]
    simp only [queryRows]
    cases (c.send 0 (.ofQuery pattern)).1 <;> rfl
  next relations backing =>
    rw [engaged.volatile backing]
    rfl

theorem probe_of_roomy (engaged : c.Engaged objects capacity durable channel)
    (roomy : 2 ≤ capacity) (lenient : Database.Lenient objects) : (c.probe 0).1 = .ok () := by
  unfold Cluster.probe
  split
  next number backing =>
    obtain ⟨-, rfl⟩ := engaged.pool_eq backing
    have unobjected : objects .probe = none := lenient .probe nofun
    have answered := engaged.answered roomy .probe
    rw [Database.verdict, unobjected] at answered
    simp only [probeStore, map_mapError, answered]
    rfl
  next => rfl

theorem publish_of_roomy (engaged : c.Engaged objects capacity durable channel)
    (roomy : 2 ≤ capacity) (s : Signal) :
    (c.publish 0 s).1 =
      (Database.verdict objects (.notify channel s.encode)).mapError
        DatabaseFailure.toSignalFailure := by
  rw [engaged.publish_eq, ← engaged.answered roomy, map_mapError]

theorem publish_of_single (engaged : c.Engaged objects 1 durable channel) (s : Signal) :
    (c.publish 0 s).1 = .error (.transport DatabaseFailure.timedOut.message) := by
  have inVain := (engaged.send (by omega) (.notify channel s.encode)).2
  rw [if_pos rfl] at inVain
  rw [engaged.publish_eq, inVain]
  rfl

theorem query_of_single (engaged : c.Engaged objects 1 true channel) (pattern : FactPattern) :
    (c.query 0 pattern).1 = .error (.unavailable DatabaseFailure.timedOut.message) := by
  unfold Cluster.query
  split
  next number backing =>
    obtain ⟨-, rfl⟩ := engaged.pool_eq backing
    have inVain := (engaged.send (by omega) (.ofQuery pattern)).2
    rw [if_pos rfl] at inVain
    simp only [queryRows, inVain]
    rfl
  next relations backing =>
    cases engaged.volatile backing

theorem memory (engaged : c.Engaged objects capacity false channel) :
    ∃ relations, (c.node 0).backing = .memory relations := by
  cases backing : (c.node 0).backing with
  | memory relations => exact ⟨relations, rfl⟩
  | pool number => cases (engaged.pool_eq backing).1

end Engaged

/-! ### A replica that is supplied, and one that is not -/

/-- Every request of the replica is answered in time, whatever it is; the only ones refused are
those to whose statements the database objects. -/
structure Supplied (objects : Statement → Option ServerError) (durable : Bool) (channel : String)
    (c : Cluster) : Prop where
  probe : (callHandler 0 .probe c).1 = .ok ()
  publish : ∀ s, (callHandler 0 (.publish s) c).1 =
    (Database.verdict objects (.notify channel s.encode)).mapError DatabaseFailure.toSignalFailure
  write : ∀ change fact, (callHandler 0 (.write change fact) c).1 =
    if durable then
      (Database.verdict objects (.ofWrite change fact)).mapError DatabaseFailure.toStoreFailure
    else .ok ()
  query : ∀ pattern, ((callHandler 0 (.query pattern) c).1.map fun _ => ()) =
    if durable then
      (Database.verdict objects (.ofQuery pattern)).mapError DatabaseFailure.toStoreFailure
    else .ok ()

/-- The store answers, but every signal waits in vain for a connection. -/
structure Muted (c : Cluster) : Prop where
  probe : (callHandler 0 .probe c).1 = .ok ()
  publish : ∀ s, (callHandler 0 (.publish s) c).1 =
    .error (.transport "pool timed out while waiting for an open connection")
  write : ∀ change fact, (callHandler 0 (.write change fact) c).1 = .ok ()
  query : ∀ pattern, ∃ facts, (callHandler 0 (.query pattern) c).1 = .ok facts

theorem Engaged.supplied (engaged : c.Engaged objects capacity durable channel)
    (roomy : 2 ≤ capacity) (lenient : Database.Lenient objects) :
    c.Supplied objects durable channel where
  probe := (engaged.waited (by omega) _).probe_of_roomy roomy lenient
  publish s := (engaged.waited (by omega) _).publish_of_roomy roomy s
  write change fact := (engaged.waited (by omega) _).write_of_roomy roomy change fact
  query pattern := (engaged.waited (by omega) _).query_of_roomy roomy pattern

theorem Engaged.muted (engaged : c.Engaged objects 1 false channel) : c.Muted where
  probe := by
    obtain ⟨relations, backing⟩ := (engaged.waited (by omega) .probe).memory
    simp only [Cluster.callHandler, Cluster.handler, Cluster.probe, backing]
  publish s := (engaged.waited (by omega) _).publish_of_single s
  write change fact := by
    obtain ⟨relations, backing⟩ := (engaged.waited (by omega) (.write change fact)).memory
    simp only [Cluster.callHandler, Cluster.handler, Cluster.write, backing]
  query pattern := by
    obtain ⟨relations, backing⟩ := (engaged.waited (by omega) (.query pattern)).memory
    simp only [Cluster.callHandler, Cluster.handler, Cluster.query, backing]
    exact ⟨_, rfl⟩

/-! ### The life of a replica -/

/-- What can become of a cluster with one replica while the database goes on: the replica acts, for
one call or for several that take turns, it watches or no longer does, time passes, and others use
the database. -/
inductive Lived (start : Cluster) : Cluster → Prop
  | started : Lived start start
  | acted {c : Cluster} (before : Lived start c) (a : Action) :
      Lived start (callHandler 0 a c).2
  | watched {c : Cluster} (before : Lived start c) (subscription : Nat) :
      Lived start { c with watches := c.watches ++ [⟨0, subscription⟩] }
  | unwatched {c : Cluster} (before : Lived start c) : Lived start (c.unwatch 0).2
  | settled {c : Cluster} (before : Lived start c) : Lived start c.settle
  | waited {c : Cluster} (before : Lived start c) (ms : Nat) : Lived start (c.wait ms)
  | advanced {c : Cluster} (before : Lived start c) (ms : Nat) : Lived start (c.advance ms)
  | elsewhere {c : Cluster} (before : Lived start c) {d : Database}
      (sustains : c.database.Sustains d) : Lived start { c with database := d }

theorem Engaged.unwatch (engaged : c.Engaged objects capacity durable channel) :
    (c.unwatch 0).2.Engaged objects capacity durable channel := by
  have ended (watches : List Watch) {c : Cluster}
      (engaged : c.Engaged objects capacity durable channel) :
      (watches.foldl (fun c w => c.unsubscribe 0 w.subscription) c).Engaged objects capacity
        durable channel := by
    induction watches generalizing c with
    | nil => exact engaged
    | cons w rest ih => exact ih (engaged.modifyChannel _)
  simp only [Cluster.unwatch, List.partition_eq_filter_filter]
  exact ended _ ⟨engaged.lent, engaged.node,
    fun w had => engaged.watches w (List.mem_filter.mp had).1, engaged.objections⟩

theorem Lived.engaged {start : Cluster} (lived : Lived start c) (positive : 0 < capacity)
    (engaged : start.Engaged objects capacity durable channel) :
    c.Engaged objects capacity durable channel := by
  induction lived with
  | started => exact engaged
  | acted before a ih => exact ih.callHandler positive a
  | watched before subscription ih =>
    refine ⟨ih.lent, ih.node, fun w had => ?_, ih.objections⟩
    rcases List.mem_append.mp had with old | new
    · exact ih.watches w old
    · rw [List.mem_singleton.mp new]
  | unwatched before ih => exact ih.unwatch
  | settled before ih => exact (ih.work positive).takeInAll
  | waited before ms ih => exact ih.wait ms
  | advanced before ms ih => exact ⟨ih.lent, ih.node, ih.watches, ih.objections⟩
  | elsewhere before sustains ih => exact ih.elsewhere sustains

/-! ### Starting it -/

/-- Nothing is there but a database. -/
structure Bare (c : Cluster) : Prop where
  pools : c.pools = []
  listeners : c.listeners = []
  nodes : c.nodes = []
  watches : c.watches = []

/-- The database receives clients and has no faults, it objects to nothing but what it cannot take
of a text, and its tables were never set up or are as this program sets them up. -/
structure Healthy (d : Database) : Prop where
  welcome : d.refusal = none
  faultless : d.faults = []
  lenient : Database.Lenient d.objection?
  inOrder : Setup.InOrder .relations d

/-- A pool was opened, and nothing of it is kept. -/
structure Stocked (objects : Statement → Option ServerError) (capacity : Nat) (c : Cluster) :
    Prop where
  pool : ∃ p, c.pools = [p] ∧ p.capacity = capacity ∧ p.held = [] ∧ p.Serves c.database ∧
    p.Tidy c.database []
  faultless : c.database.faults = []
  listeners : c.listeners = []
  nodes : c.nodes = []
  watches : c.watches = []
  objections : c.database.objection? = objects

theorem noteAll_eq (traces : List Trace) (c : Cluster) :
    ∃ telemetry, c.noteAll traces = { c with telemetry } := by
  induction traces generalizing c with
  | nil => exact ⟨c.telemetry, rfl⟩
  | cons t rest ih =>
    obtain ⟨telemetry, same⟩ := ih (c.note t)
    exact ⟨telemetry, same⟩

/-- The signals go through this database, over a pool that may have connections. -/
structure Addressed (s : Settings) (d : DatabaseSettings) (c : Cluster) : Prop where
  signalling : s.signalling = .database
  database : s.database = some d
  here : (DatabaseAddress.ofUrl d.url).1 = .ok c.database.address
  positive : 0 < d.maxConnections

variable {s : Settings} {d : DatabaseSettings}

/-- Who has no time to wait for a connection gets none. -/
theorem Addressed.openPool_of_impatient (addressed : c.Addressed s d)
    (impatient : d.acquireTimeout = 0) : (c.openPool d).1 = .error .timedOut := by
  have positive := addressed.positive
  simp [openPool, addressed.here, Nat.ne_of_gt positive, connectPool, Pool.opened, Pool.acquire,
    Pool.free, Pool.lend, Pool.connect, impatient]

theorem Addressed.openPool (addressed : c.Addressed s d) (bare : c.Bare)
    (healthy : Healthy c.database) (patient : d.acquireTimeout ≠ 0) :
    (c.openPool d).1 = .ok 0 ∧ (c.openPool d).2.Stocked c.database.objection? d.maxConnections ∧
      Setup.InOrder .relations (c.openPool d).2.database := by
  have positive := addressed.positive
  have serves : ({ address := c.database.address, capacity := d.maxConnections,
                   timeout := d.acquireTimeout } : Pool).Serves c.database :=
    ⟨rfl, patient, positive, rfl, healthy.welcome⟩
  obtain ⟨q, e, opened, size, free, later, tidy, sustains, migrations⟩ := serves.exists_opened
  obtain ⟨telemetry, noted⟩ := noteAll_eq ((DatabaseAddress.ofUrl d.url).2.map .event) c
  have pooled : c.openPool d = (.ok 0, { c with telemetry, pools := [q], database := e }) := by
    simp only [Cluster.openPool, addressed.here, noted, if_neg (Nat.ne_of_gt positive), connectPool,
      opened, bare.pools, List.length_nil, List.nil_append]
  rw [pooled]
  refine ⟨rfl, ⟨⟨q, rfl, size, free, later, tidy⟩, sustains.faults healthy.faultless,
    bare.listeners, bare.nodes, bare.watches, sustains.objections⟩, ?_⟩
  intro a applied
  exact healthy.inOrder a (migrations ▸ applied)

theorem Stocked.setUp (stocked : c.Stocked objects capacity) (lenient : Database.Lenient objects)
    (inOrder : Setup.InOrder .relations c.database) :
    (c.setUp 0).1 = .ok () ∧ (c.setUp 0).2.Stocked objects capacity := by
  obtain ⟨p, pools, size, free, serves, tidy⟩ := stocked.pool
  obtain ⟨id, q, e, lent, alive, spares, later, lentTidy⟩ := serves.exists_acquire tidy
  have faultless := spares.sustains.faults stocked.faultless
  have stillInOrder : Setup.InOrder .relations e := by
    intro a applied
    rw [spares.migrations] at applied
    exact inOrder a applied
  have objections : e.objection? = objects := spares.sustains.objections.trans stocked.objections
  obtain ⟨f, done, sustains⟩ :=
    Setup.all_of_inOrder ⟨alive, faultless, objections ▸ lenient⟩ stillInOrder
  have found : c.pools[0]? = some p := by rw [pools]; rfl
  have ready : c.setUp 0 = (.ok (), { c with pools := [q.release id], database := f }) := by
    rw [Cluster.setUp, found]
    simp only [lent, Database.setUp, done, setPool, pools, List.set_cons_zero]
  obtain ⟨kept, released⟩ := lentTidy.release
  rw [ready]
  exact ⟨rfl, ⟨q.release id, rfl, spares.terms.capacity.trans size,
    kept.trans (spares.terms.held.trans free),
    (later.of_sameService sustains.toSameService).release id, released.of_sustains sustains⟩,
    sustains.faults faultless, stocked.listeners, stocked.nodes, stocked.watches,
    sustains.objections.trans objections⟩

theorem Stocked.listen (stocked : c.Stocked objects capacity) (lenient : Database.Lenient objects)
    (named : Statement.channelName channel ≠ "") :
    (c.listen 0 channel).1 = .ok 0 ∧ (c.listen 0 channel).2.nodes = [] ∧
      ∀ n : Node, n.outlet = .listener 0 → n.backing.Over durable →
        { (c.listen 0 channel).2 with nodes := [n] }.Engaged objects capacity durable channel := by
  obtain ⟨p, pools, size, free, serves, tidy⟩ := stocked.pool
  obtain ⟨l, q, e, started, number, channelled, sustains, retains, sameSize⟩ :=
    Listener.start_of_serves serves tidy stocked.faultless (stocked.objections ▸ lenient) 0 named
  have found : c.pools[0]? = some p := by rw [pools]; rfl
  have listening : c.listen 0 channel =
      (.ok 0, { c with pools := [q], database := e, listeners := [l] }.note
        (.event (.listening channel))) := by
    rw [Cluster.listen, found]
    simp only [started, setPool, pools, stocked.listeners, List.length_nil, List.nil_append,
      List.set_cons_zero]
  rw [listening]
  refine ⟨rfl, stocked.nodes, fun n outlet belongs => ⟨⟨q, l, rfl, rfl, sameSize.trans size, number,
    channelled, retains free⟩, ⟨n, rfl, outlet, belongs⟩, fun w had => ?_,
    sustains.objections.trans stocked.objections⟩⟩
  rw [stocked.watches] at had
  cases had

/-- The database does not listen on a channel without a name. -/
theorem Stocked.listen_of_nameless (stocked : c.Stocked objects capacity)
    (lenient : Database.Lenient objects) (nameless : Statement.channelName channel = "") :
    (c.listen 0 channel).1 = .error (.answered
      ⟨"42601", "zero-length delimited identifier at or near \"\"\"\""⟩) := by
  obtain ⟨p, pools, -, -, serves, tidy⟩ := stocked.pool
  have found : c.pools[0]? = some p := by rw [pools]; rfl
  obtain ⟨id, q, e, lent, alive, spares, -, -⟩ := serves.exists_acquire tidy
  have sent := Database.send_of_open alive (spares.sustains.faults stocked.faultless)
    (.listen channel false)
  have objected : e.objection? (.listen channel false) =
      some ⟨"42601", "zero-length delimited identifier at or near \"\"\"\""⟩ := by
    rw [spares.sustains.objections, stocked.objections, lenient (.listen channel false) nofun]
    simp [Statement.objection?, nameless]
  rw [objected] at sent
  simp only [Cluster.listen, found, Listener.start, Listener.listen, lent]
  rw [sent]
  rfl

theorem Addressed.startPool_eq (addressed : c.Addressed s d) :
    c.startPool s = (((c.openPool d).1.mapError .connection).map some, (c.openPool d).2) := by
  simp only [startPool, addressed.signalling, or_true, if_true, addressed.database]

/-- The pool is opened, and the store is set up over it if it is one in the database. -/
theorem Addressed.startBacking (addressed : c.Addressed s d) (bare : c.Bare)
    (healthy : Healthy c.database) (patient : d.acquireTimeout ≠ 0) :
    ∃ pooled backing stored, c.startPool s = (.ok (some 0), pooled) ∧
      pooled.startBacking s (some 0) = (.ok backing, stored) ∧
      stored.Stocked c.database.objection? d.maxConnections ∧
      backing.Over (s.storage == Storage.database) := by
  obtain ⟨opened, stocked, inOrder⟩ := addressed.openPool bare healthy patient
  have pooled : c.startPool s = (.ok (some 0), (c.openPool d).2) := by
    rw [addressed.startPool_eq, opened]
    rfl
  cases storage : s.storage with
  | database =>
    obtain ⟨done, ready⟩ := stocked.setUp healthy.lenient inOrder
    exact ⟨_, .pool 0, _, pooled, by simp only [Cluster.startBacking, storage, done]; rfl, ready,
      rfl, rfl⟩
  | memory =>
    exact ⟨_, .memory .empty, _, pooled, by simp only [Cluster.startBacking, storage], stocked, rfl⟩

/-! ### The first index -/

theorem Engaged.exists_load (engaged : c.Engaged objects capacity durable channel)
    (positive : 0 < capacity) (lenient : Database.Lenient objects)
    (supplied : capacity = 1 → durable = false) (id storeName channelName : String) :
    ∃ index, (c.run 0 (Replica.load id storeName channelName)).1 = .ok index := by
  have found {c : Cluster} (engaged : c.Engaged objects capacity durable channel)
      (pattern : FactPattern) (accepted : objects (.ofQuery pattern) = none) :
      ∃ facts, (Cluster.callHandler 0 (.query pattern) c).1 = .ok facts := by
    have worked := engaged.waited positive (.query pattern)
    by_cases single : capacity = 1
    · rw [supplied single] at worked
      obtain ⟨relations, backing⟩ := worked.memory
      simp only [Cluster.callHandler, Cluster.handler, Cluster.query, backing]
      exact ⟨_, rfl⟩
    · have answered : ((Cluster.callHandler 0 (.query pattern) c).1.map fun _ => ()) = .ok () := by
        refine (worked.query_of_roomy (by omega) pattern).trans ?_
        rw [Database.verdict, accepted]
        cases durable <;> rfl
      cases answer : (Cluster.callHandler 0 (.query pattern) c).1 with
      | ok facts => exact ⟨facts, rfl⟩
      | error cause =>
        rw [answer] at answered
        cases answered
  obtain ⟨grants, first⟩ := found engaged .allGrants (lenient (.ofQuery .allGrants) (by decide))
  obtain ⟨assignments, second⟩ := found (engaged.callHandler positive (.query .allGrants))
    .allAssignments (lenient (.ofQuery .allAssignments) (by decide))
  refine ⟨.ofAnswers grants assignments, ?_⟩
  simp [Cluster.run, Replica.load, Replica.buildIndex, Attempt.ofStore, Call.note, Call.perform,
    first, second, Except.mapError]

/-- The first question is already too much. -/
theorem Engaged.load_of_single (engaged : c.Engaged objects 1 true channel)
    (id storeName channelName : String) :
    (c.run 0 (Replica.load id storeName channelName)).1 =
      .error (.store (.unavailable DatabaseFailure.timedOut.message)) := by
  have inVain : (Cluster.callHandler 0 (.query .allGrants) c).1 =
      .error (.unavailable DatabaseFailure.timedOut.message) :=
    (engaged.waited (by omega) _).query_of_single .allGrants
  simp [Cluster.run, Replica.load, Replica.buildIndex, Attempt.ofStore, Call.perform, inVain,
    Except.mapError]

/-- The replica is there, and its index is yet to be read. -/
def enlisted (id : String) (s : Settings) (parts : Parts) (c : Cluster) : Cluster :=
  let n : Node :=
    { profile := ⟨id, s.defaultDomain, s.adminRole⟩, backing := parts.backing,
      outlet := parts.outlet, pool := parts.pool }
  match parts.backing with
  | .memory _ => { c with nodes := [n] }.note (.event .storeIsVolatile)
  | .pool _ => { c with nodes := [n] }

theorem start_of_load {id : String} {parts : Parts} {later loaded : Cluster} {index : Index}
    (built : c.startParts s = (.ok parts, later)) (empty : later.nodes = [])
    (read : (later.enlisted id s parts).run 0
      (Replica.load id parts.backing.name parts.outlet.name) = (.ok index, loaded)) :
    c.start id s = (.ok 0, loaded.modifyNode 0 fun n => { n with index }) := by
  obtain ⟨pool, backing, outlet⟩ := parts
  cases backing <;>
  · simp only [enlisted, note] at read
    simp only [start, built, empty, note, List.length_nil, List.nil_append, read]

theorem start_of_load_error {id : String} {parts : Parts} {later : Cluster} {cause : Failure}
    (built : c.startParts s = (.ok parts, later)) (empty : later.nodes = [])
    (refused : ((later.enlisted id s parts).run 0
      (Replica.load id parts.backing.name parts.outlet.name)).1 = .error cause) :
    (c.start id s).1 = .error (.index cause) := by
  obtain ⟨pool, backing, outlet⟩ := parts
  cases backing <;>
  · simp only [enlisted, note] at refused
    simp only [start, built, empty, note, List.length_nil, List.nil_append]
    split
    next read =>
      rw [read] at refused
      cases refused
    next read =>
      rw [read] at refused
      exact congrArg (Except.error ∘ StartFailure.index) (Except.error.inj refused)

/-- Everything is there but the index. -/
theorem Addressed.exists_enlisted (addressed : c.Addressed s d) (bare : c.Bare)
    (healthy : Healthy c.database) (patient : d.acquireTimeout ≠ 0)
    (named : Statement.channelName s.channel ≠ "") (id : String) :
    ∃ parts later, c.startParts s = (.ok parts, later) ∧ later.nodes = [] ∧
      (later.enlisted id s parts).Engaged c.database.objection? d.maxConnections
        (s.storage == Storage.database) s.channel := by
  obtain ⟨pooled, backing, stored, pool, store, stocked, belongs⟩ :=
    addressed.startBacking bare healthy patient
  obtain ⟨listening, empty, engaged⟩ := stocked.listen healthy.lenient named
  refine ⟨⟨some 0, backing, .listener 0⟩, (stored.listen 0 s.channel).2, ?_, empty, ?_⟩
  · simp only [Cluster.startParts, pool, store, startOutlet, addressed.signalling, listening]
    rfl
  · cases backing with
    | memory relations => exact (engaged _ rfl belongs).note _
    | pool number => exact engaged _ rfl belongs

/-- Where the first index can be read, the replica is engaged from then on. -/
theorem Addressed.exists_engaged (addressed : c.Addressed s d) (bare : c.Bare)
    (healthy : Healthy c.database) (patient : d.acquireTimeout ≠ 0)
    (named : Statement.channelName s.channel ≠ "")
    (supplied : d.maxConnections = 1 → (s.storage == Storage.database) = false) (id : String) :
    ∃ started, c.start id s = (.ok 0, started) ∧ ∀ later, Lived started later →
      later.Engaged c.database.objection? d.maxConnections (s.storage == Storage.database)
        s.channel := by
  obtain ⟨parts, ready, built, empty, engaged⟩ :=
    addressed.exists_enlisted bare healthy patient named id
  obtain ⟨index, read⟩ :=
    engaged.exists_load addressed.positive healthy.lenient supplied id parts.backing.name
      parts.outlet.name
  refine ⟨_, start_of_load built empty (Prod.ext read rfl), fun later lived => ?_⟩
  exact lived.engaged addressed.positive
    ((engaged.run addressed.positive _).modifyNode (fun _ => rfl) fun _ belongs => belongs)

/-- A replica is started whose signals go through a database that is well. It needs time to wait for
a connection, and a name for its channel. With two connections or more, the start then succeeds, and
whatever happens afterwards, every request is answered in time, and refused only where the database
objects to it. With one, the listener keeps it: a store in the database cannot be read for the first
index, so that the start fails, and beside a store in memory every signal is refused. -/
theorem start_of_listener (bare : c.Bare) (healthy : Healthy c.database)
    (addressed : c.Addressed s d) (id : String) :
    (d.acquireTimeout = 0 → (c.start id s).1 = .error (.connection .timedOut)) ∧
    (d.acquireTimeout ≠ 0 → Statement.channelName s.channel = "" →
      (c.start id s).1 = .error (.listening (.answered
        ⟨"42601", "zero-length delimited identifier at or near \"\"\"\""⟩))) ∧
    (d.acquireTimeout ≠ 0 → Statement.channelName s.channel ≠ "" →
      (2 ≤ d.maxConnections → ∃ started, c.start id s = (.ok 0, started) ∧
        ∀ later, Lived started later →
          later.Supplied c.database.objection? (s.storage == Storage.database) s.channel) ∧
      (d.maxConnections = 1 → s.storage = .database → (c.start id s).1 =
        .error (.index (.store (.unavailable
          "pool timed out while waiting for an open connection")))) ∧
      (d.maxConnections = 1 → s.storage = .memory → ∃ started, c.start id s = (.ok 0, started) ∧
        ∀ later, Lived started later → later.Muted)) := by
  refine ⟨fun impatient => ?_, fun patient nameless => ?_, fun patient named =>
    ⟨fun roomy => ?_, fun single storage => ?_, fun single storage => ?_⟩⟩
  · simp only [start, startParts, addressed.startPool_eq,
      addressed.openPool_of_impatient impatient]
    rfl
  · obtain ⟨pooled, backing, stored, pool, store, stocked, -⟩ :=
      addressed.startBacking bare healthy patient
    simp only [start, startParts, pool, store, startOutlet, addressed.signalling,
      stocked.listen_of_nameless healthy.lenient nameless]
    rfl
  · obtain ⟨started, done, still⟩ :=
      addressed.exists_engaged bare healthy patient named (by omega) id
    exact ⟨started, done, fun later lived =>
      (still later lived).supplied roomy healthy.lenient⟩
  · obtain ⟨parts, ready, built, empty, engaged⟩ :=
      addressed.exists_enlisted bare healthy patient named id
    rw [single, storage] at engaged
    exact start_of_load_error built empty
      (engaged.load_of_single id parts.backing.name parts.outlet.name)
  · obtain ⟨started, done, still⟩ :=
      addressed.exists_engaged bare healthy patient named (fun _ => by rw [storage]; rfl) id
    refine ⟨started, done, fun later lived => ?_⟩
    have engaged := still later lived
    rw [single, storage] at engaged
    exact engaged.muted

/-- Store and signals share a pool of this size. -/
def sharing (connections : Nat) : Settings :=
  { storage := .database, signalling := .database,
    database := some { ownSettings with maxConnections := connections } }

/-- Two connections are enough: every signal is sent, and every fact without a null character is
written. -/
theorem start_of_listener_pair :
    ∃ started, ({} : Cluster).start "first" (sharing 2) = (.ok 0, started) ∧
      ∀ later, Lived started later →
        later.Supplied Statement.objection? true "tollgate_policy_changed" ∧
        (∀ s, (callHandler 0 (.publish s) later).1 = .ok ()) ∧
        ∀ change fact, (StoreCall.write change fact).hasNull = false →
          (callHandler 0 (.write change fact) later).1 = .ok () := by
  have bare : ({} : Cluster).Bare := ⟨rfl, rfl, rfl, rfl⟩
  have healthy : Healthy ({} : Cluster).database := ⟨rfl, rfl, fun _ _ => rfl, by rintro a ⟨⟩⟩
  have addressed : ({} : Cluster).Addressed (sharing 2) { ownSettings with maxConnections := 2 } :=
    ⟨rfl, rfl, by decide +kernel, by decide⟩
  obtain ⟨started, done, alive⟩ :=
    ((start_of_listener bare healthy addressed "first").2.2 (by decide) (by decide)).1 (by decide)
  refine ⟨started, done, fun later lived => ?_⟩
  have supplied : later.Supplied Statement.objection? true "tollgate_policy_changed" :=
    alive later lived
  refine ⟨supplied, fun s => ?_, fun change fact clean => ?_⟩
  · rw [supplied.publish, Database.verdict, s.objection?_notify (by decide)]
    rfl
  · have unobjected : (Statement.ofWrite change fact).objection? = none := by
      refine (StoreCall.write change fact).objection?_statement.trans ?_
      rw [clean]
      rfl
    rw [supplied.write, Database.verdict, unobjected]
    rfl

/-- One connection is a pool, and the replica that is to share it is not started. -/
theorem not_start_of_single :
    (({} : Cluster).openPool { ownSettings with maxConnections := 1 }).1 = .ok 0 ∧
      (({} : Cluster).start "first" (sharing 1)).1 =
        .error (.index (.store (.unavailable
          "pool timed out while waiting for an open connection"))) := by
  decide +kernel

end Cluster

end Entitlement
