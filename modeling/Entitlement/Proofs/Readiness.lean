import Entitlement.Cluster

/-!
# A store that is ready

A store that was opened on a database without faults always finds a connection: its pool has one to
spare, and the database lets it in. No statement changes that. Setting the tables up leaves their
rows alone.
-/

namespace Entitlement

namespace Database

variable {d e f : Database} {id : Nat}

/-! ### What stays the same -/

/-- Clients are received as before. -/
structure SameService (d e : Database) : Prop where
  address : e.address = d.address
  refusal : e.refusal = d.refusal
  objections : e.objection? = d.objection?
  faults : d.faults = [] → e.faults = []

structure SameContent (d e : Database) : Prop extends SameService d e where
  grants : e.grants = d.grants
  assignments : e.assignments = d.assignments

theorem SameService.trans (first : d.SameService e) (second : e.SameService f) :
    d.SameService f where
  address := second.address.trans first.address
  refusal := second.refusal.trans first.refusal
  objections := second.objections.trans first.objections
  faults faultless := second.faults (first.faults faultless)

theorem SameContent.refl (d : Database) : d.SameContent d :=
  ⟨⟨rfl, rfl, rfl, fun faultless => faultless⟩, rfl, rfl⟩

theorem SameContent.trans (first : d.SameContent e) (second : e.SameContent f) :
    d.SameContent f where
  toSameService := first.toSameService.trans second.toSameService
  grants := second.grants.trans first.grants
  assignments := second.assignments.trans first.assignments

/-- A statement without a text meets only the objections that every database has. -/
def Lenient (objects : Statement → Option ServerError) : Prop :=
  ∀ s : Statement, (∀ parameter ∈ s.parameters, parameter = none) → objects s = s.objection?

theorem SameService.lenient (same : d.SameService e) (lenient : Lenient d.objection?) :
    Lenient e.objection? := by
  rw [same.objections]
  exact lenient

/-- How a database with these objections answers a statement, save for the rows. -/
def verdict (objects : Statement → Option ServerError) (s : Statement) :
    Except DatabaseFailure Unit :=
  match objects s with
  | some error => .error (.answered error)
  | none => .ok ()

theorem SameContent.rows (same : d.SameContent e) (t : Table) : e.rows t = d.rows t := by
  cases t
  · exact same.grants
  · exact same.assignments

theorem sameContent_modifyConnection (d : Database) (f : Connection → Connection) :
    d.SameContent (d.modifyConnection id f) :=
  ⟨⟨rfl, rfl, rfl, fun faultless => faultless⟩, rfl, rfl⟩

theorem sameContent_setMigration (d : Database) (a : AppliedMigration) :
    d.SameContent (d.setMigration a) :=
  ⟨⟨rfl, rfl, rfl, fun faultless => faultless⟩, rfl, rfl⟩

theorem sameContent_disconnect (d : Database) (id : Nat) : d.SameContent (d.disconnect id) :=
  ⟨⟨rfl, rfl, rfl, fun faultless => faultless⟩, rfl, rfl⟩

theorem sameContent_enter (d : Database) (s : Statement) (outcome : StatementOutcome) :
    d.SameContent (d.enter s outcome) := by
  unfold enter
  split
  · exact ⟨⟨rfl, rfl, rfl, fun faultless => faultless⟩, rfl, rfl⟩
  · exact .refl d

theorem sameContent_foldl {α : Type} {f : Database → α → Database}
    (step : ∀ (d : Database) (a : α), d.SameContent (f d a)) (l : List α) (d : Database) :
    d.SameContent (l.foldl f d) := by
  induction l generalizing d with
  | nil => exact .refl d
  | cons a rest ih => exact (step d a).trans (ih _)

theorem sameContent_keepBooks (d : Database) (id : Nat) (b : Bookkeeping) :
    d.SameContent (d.keepBooks id b) := by
  cases b with
  | start | rollback => exact sameContent_modifyConnection d _
  | record m =>
    rw [keepBooks, recordMigration]
    split
    · exact sameContent_setMigration d _
    · exact sameContent_modifyConnection d _
  | commit =>
    rw [keepBooks, Database.commit]
    exact (sameContent_modifyConnection d _).trans
      (sameContent_foldl (fun d a => sameContent_setMigration d a) _ _)
  | databaseName | lock | createTable | unfinished | applied | run | duration | unlock =>
    exact .refl d

theorem sameService_execute (d : Database) (id : Nat) (s : Statement) :
    d.SameService (d.execute id s).2 := by
  cases s with
  | insert t row | delete t row => cases t <;> exact ⟨rfl, rfl, rfl, fun faultless => faultless⟩
  | select | probe | notify | listen | unlisten => exact ⟨rfl, rfl, rfl, fun faultless => faultless⟩
  | bookkeeping b => exact (sameContent_keepBooks d id b).toSameService

/-! ### Sending a statement -/

/-- A database without faults answers on a connection that is open: it objects to the statement or
executes it. -/
theorem send_of_open (isOpen : d.isOpen id = true) (faultless : d.faults = []) (s : Statement) :
    d.send id s = match d.objection? s with
      | some error => (.error (.answered error), d.enter s (.failed error.code))
      | none => (.ok (d.execute id s).1, (d.execute id s).2.enter s .succeeded) := by
  have same : ({ d with faults := [] } : Database) = d := by rw [← faultless]
  cases objected : d.objection? s <;>
    simp [send, isOpen, faultless, same, objected]

theorem sameService_send_of_open (isOpen : d.isOpen id = true) (faultless : d.faults = [])
    (s : Statement) : d.SameService (d.send id s).2 := by
  rw [send_of_open isOpen faultless]
  split
  · exact (sameContent_enter d s _).toSameService
  · exact (sameService_execute d id s).trans (sameContent_enter _ s _).toSameService

theorem sameContent_strike (d : Database) (fits : String → Bool) :
    d.SameContent { d with faults := (Fault.strike fits d.faults).2 } := by
  refine ⟨⟨rfl, rfl, rfl, ?_⟩, rfl, rfl⟩
  intro faultless
  simp [faultless]

theorem sameContent_send_bookkeeping (d : Database) (id : Nat) (b : Bookkeeping) :
    d.SameContent (d.send id (.bookkeeping b)).2 := by
  unfold send
  split
  · exact .refl d
  · have struck := sameContent_strike d (Text.includes (Statement.bookkeeping b).text)
    generalize Fault.strike (Text.includes (Statement.bookkeeping b).text) d.faults = found
      at struck ⊢
    obtain ⟨effect, faults⟩ := found
    refine struck.trans ?_
    simp only
    split
    · exact (sameContent_disconnect _ _).trans (sameContent_enter _ _ _)
    · exact sameContent_enter _ _ _
    · split
      · exact sameContent_enter _ _ _
      · exact (sameContent_keepBooks _ _ _).trans (sameContent_enter _ _ _)

end Database

/-! ### Setting the tables up -/

namespace Setup

variable {α β : Type}

/-- Whatever comes of the work, the content of the database stays. -/
def Spares (work : Setup α) : Prop := ∀ d : Database, d.SameContent (work.run.run d).2

theorem spares_pure (a : α) : Spares (pure a) := fun d => .refl d

theorem spares_throw (failure : MigrationFailure) : Spares (throw failure : Setup α) :=
  fun d => .refl d

theorem spares_get : Spares (get : Setup Database) := fun d => .refl d

theorem Spares.bind {work : Setup α} {next : α → Setup β} (spares : Spares work)
    (later : ∀ a, Spares (next a)) : Spares (work >>= next) := by
  intro d
  have first := spares d
  rw [ExceptT.run_bind, StateT.run_bind]
  generalize work.run.run d = result at first ⊢
  obtain ⟨answer, e⟩ := result
  cases answer with
  | ok a => exact first.trans (later a e)
  | error cause => exact first

theorem Spares.tryCatch {work : Setup α} {handle : MigrationFailure → Setup α}
    (spares : Spares work) (handled : ∀ failure, Spares (handle failure)) :
    Spares (tryCatch work handle) := by
  intro d
  have first := spares d
  rw [ExceptT.run_tryCatch, StateT.run_bind]
  generalize work.run.run d = result at first ⊢
  obtain ⟨answer, e⟩ := result
  cases answer with
  | ok a => exact first
  | error cause => exact first.trans (handled cause e)

theorem spares_send (connection : Nat) (b : Bookkeeping) : Spares (send connection b) :=
  fun d => d.sameContent_send_bookkeeping connection b

/-- A step of the work that fails with its statement. -/
theorem spares_step (connection : Nat) (b : Bookkeeping)
    (blame : DatabaseFailure → MigrationFailure) :
    Spares (do
      match ← send connection b with
      | .ok _ => return
      | .error cause => throw (blame cause)) := by
  apply (spares_send connection b).bind
  intro answer
  cases answer with
  | ok rows => exact spares_pure ()
  | error cause => exact spares_throw _

theorem spares_keep (connection : Nat) (b : Bookkeeping) : Spares (keep connection b) :=
  spares_step connection b .bookkeeping

theorem spares_runScript (connection : Nat) (m : Migration) : Spares (runScript connection m) :=
  spares_step connection (.run m) (.script m.version)

theorem spares_apply (connection : Nat) (m : Migration) : Spares (apply connection m) := by
  have attempted : Spares (do
      runScript connection m
      keep connection (.record m)
      keep connection .commit) := by
    apply (spares_runScript connection m).bind
    intro _
    apply (spares_keep connection _).bind
    intro _
    exact spares_keep connection _
  apply (spares_keep connection _).bind
  intro _
  apply (attempted.tryCatch _).bind
  · intro _
    exact spares_keep connection _
  · intro failure
    apply (spares_send connection _).bind
    intro _
    exact spares_throw failure

/-- A look at the versions, which fails if one of them is not as it should be. -/
theorem spares_look (connection : Nat) (b : Bookkeeping) (wrong : AppliedMigration → Bool)
    (blame : Nat → MigrationFailure) :
    Spares (do
      keep connection b
      match (← get).migrations.find? wrong with
      | some a => throw (blame a.version)
      | none => return) := by
  apply (spares_keep connection b).bind
  intro _
  apply spares_get.bind
  intro d
  split
  · exact spares_throw _
  · exact spares_pure ()

theorem spares_ensure (connection : Nat) (m : Migration) : Spares (ensure connection m) := by
  apply spares_get.bind
  intro d
  split
  · exact spares_apply connection m
  · split
    · exact spares_throw _
    · exact spares_pure ()

theorem spares_all (connection : Nat) (m : Migration) : Spares (all connection m) := by
  have kept (b : Bookkeeping) {rest : Setup Unit} (spares : Spares rest) :
      Spares (do keep connection b; rest) :=
    (spares_keep connection b).bind fun _ => spares
  apply kept
  apply kept
  apply kept
  apply (spares_look connection .unfinished (!·.success) .unfinished).bind
  intro _
  apply (spares_look connection .applied (·.version ≠ m.version) .unknown).bind
  intro _
  apply (spares_ensure connection m).bind
  intro _
  apply kept
  exact spares_keep connection _

end Setup

/-! ### Pools -/

namespace Database

variable {d : Database}

theorem connect_eq {address : DatabaseAddress} (here : address = d.address)
    (welcome : d.refusal = none) :
    d.connect address = (.ok d.nextConnection,
      { d with connections := d.connections ++ [{ id := d.nextConnection }],
               nextConnection := d.nextConnection + 1 }) := by
  simp [connect, here, welcome]

theorem here_of_connect {address : DatabaseAddress} {id : Nat}
    (connected : (d.connect address).1 = .ok id) : address = d.address ∧ d.refusal = none := by
  unfold connect at connected
  split at connected
  · split at connected <;> cases connected
  next here =>
    split at connected
    · cases connected
    next welcome => exact ⟨by simpa using here, welcome⟩

theorem isOpen_of_mem {id : Nat} {c : Connection} (member : c ∈ d.connections) (same : c.id = id) :
    d.isOpen id = true := by
  rw [isOpen, connection?, List.find?_isSome]
  exact ⟨c, member, by simpa using same⟩

end Database

namespace Pool

variable {p : Pool} {d e : Database}

/-- The pool has a connection to spare, and the database is where it is looked for. -/
structure Serves (p : Pool) (d : Database) : Prop where
  isOpen : p.closed = false
  patient : p.timeout ≠ 0
  roomy : p.held.length < p.capacity
  address : p.address = d.address
  welcome : d.refusal = none

theorem Serves.of_sameService (serves : p.Serves d) (same : d.SameService e) : p.Serves e :=
  { serves with
    address := serves.address.trans same.address.symm
    welcome := same.refusal.trans serves.welcome }

theorem Serves.release (serves : p.Serves d) (id : Nat) : (p.release id).Serves d :=
  { serves with
    roomy := Nat.lt_of_le_of_lt (List.length_erase_le ..) serves.roomy }

/-- A pool that is open only moves its own connections. -/
theorem Serves.takeIn (serves : p.Serves d) :
    ∃ q, p.takeIn d = (q, d) ∧ q.Serves d ∧ q.returning = [] := by
  have isOpen : ¬ p.closed = true := by simp [serves.isOpen]
  rw [Pool.takeIn, if_neg isOpen]
  exact ⟨_, rfl, { serves with }, rfl⟩

/-- An open connection was lent, and the pool can go on. -/
def Lends (d : Database) (result : Except DatabaseFailure Nat × Pool × Database) : Prop :=
  ∃ id q e, result = (.ok id, q, e) ∧ e.isOpen id = true ∧ d.SameContent e ∧ q.Serves e

theorem Serves.lends_connect (serves : p.Serves d) : Lends d (p.connect d) := by
  rw [Pool.connect, if_neg serves.patient, Database.connect_eq serves.address serves.welcome]
  simp only
  generalize entered : ({ d with connections := d.connections ++ [{ id := d.nextConnection }],
                                 nextConnection := d.nextConnection + 1 } : Database) = e
  have same : d.SameContent e := by
    rw [← entered]
    exact ⟨⟨rfl, rfl, rfl, fun faultless => faultless⟩, rfl, rfl⟩
  have alive : e.isOpen d.nextConnection = true := by
    rw [← entered]
    exact Database.isOpen_of_mem (List.mem_append_right _ (List.mem_singleton_self _)) rfl
  obtain ⟨q, taken, later, -⟩ := (serves.of_sameService same.toSameService).takeIn
  rw [taken]
  exact ⟨_, q, e, rfl, alive, same, later⟩

theorem Serves.lends_lend (serves : p.Serves d) : Lends d (p.lend d) := by
  unfold lend
  split
  · exact serves.lends_connect
  next id rest _ =>
    have others : ({ p with idle := rest } : Pool).Serves d := { serves with }
    simp only
    split
    next alive =>
      obtain ⟨q, taken, later, -⟩ := others.takeIn
      rw [taken]
      exact ⟨id, q, d, rfl, alive, .refl d, later⟩
    next => exact others.lends_connect

/-- While not all connections are kept, one can be lent. -/
theorem Serves.lends_acquire (serves : p.Serves d) : Lends d (p.acquire d) := by
  have isOpen : ¬ p.closed = true := by simp [serves.isOpen]
  rw [acquire, if_neg isOpen]
  by_cases full : p.free = 0
  · obtain ⟨q, taken, later, arrived⟩ := serves.takeIn
    have room : q.free ≠ 0 := by
      have roomy := later.roomy
      simp only [free, arrived, List.length_nil]
      omega
    simp only [if_pos full, taken, if_neg room]
    exact later.lends_lend
  · simp only [if_neg full]
    exact serves.lends_lend

/-- A new pool lends nothing unless it serves. -/
theorem serves_of_acquire {address : DatabaseAddress} {capacity timeout id : Nat}
    (lent : ({ address, capacity, timeout } : Pool).acquire d = (.ok id, p, e)) :
    ({ address, capacity, timeout } : Pool).Serves d := by
  have roomy : capacity ≠ 0 := by
    rintro rfl
    simp [acquire, free, takeIn] at lent
  have fresh : ({ address, capacity, timeout } : Pool).acquire d =
      ({ address, capacity, timeout } : Pool).connect d := by
    simp [acquire, free, lend, roomy]
  rw [fresh, Pool.connect] at lent
  split at lent
  · cases lent
  next patient =>
    obtain ⟨here, welcome⟩ := Database.here_of_connect (congrArg Prod.fst lent)
    exact ⟨rfl, patient, Nat.pos_of_ne_zero roomy, here, welcome⟩

theorem serves_of_opened {address : DatabaseAddress} {capacity timeout : Nat}
    (opened : Pool.opened address capacity timeout d = (.ok p, e)) :
    p.Serves e ∧ d.SameContent e := by
  unfold Pool.opened at opened
  simp only at opened
  split at opened
  · cases opened
  next lent =>
    obtain ⟨id, q, f, again, -, same, serves⟩ := (serves_of_acquire lent).lends_acquire
    rw [lent] at again
    cases again
    cases opened
    exact ⟨{ serves with }, same⟩

end Pool

/-! ### The store of a cluster -/

namespace Cluster

variable {c : Cluster} {n : Nat}

/-- Whatever is sent over pool `n` reaches the database. -/
structure Ready (c : Cluster) (n : Nat) : Prop where
  serves : ∃ p, c.pools[n]? = some p ∧ p.Serves c.database
  faultless : c.database.faults = []

theorem getElem?_setPool {p : Pool} (present : c.pools[n]? = some p) (q : Pool) (d : Database) :
    (c.setPool n q d).pools[n]? = some q := by
  have inside : n < c.pools.length := (List.getElem?_eq_some_iff.mp present).1
  simp [setPool, inside]

theorem Ready.of_sameService {p : Pool} {d : Database} (ready : c.Ready n)
    (serves : p.Serves d) (same : c.database.SameService d) : (c.setPool n p d).Ready n := by
  obtain ⟨q, present, -⟩ := ready.serves
  exact ⟨⟨p, getElem?_setPool present p d, serves⟩, same.faults ready.faultless⟩

/-- A statement arrives over an open connection, and the next one will too. -/
theorem Ready.send (ready : c.Ready n) (s : Statement) :
    ∃ id d, d.isOpen id = true ∧ c.database.SameContent d ∧
      (c.send n s).1 = (d.send id s).1 ∧ (c.send n s).2.database = (d.send id s).2 ∧
      (c.send n s).2.Ready n := by
  obtain ⟨p, present, serves⟩ := ready.serves
  obtain ⟨id, q, d, lent, alive, same, later⟩ := serves.lends_acquire
  have faultless := same.faults ready.faultless
  have sent : p.send s c.database = ((d.send id s).1, q.release id, (d.send id s).2) := by
    rw [Pool.send, lent]
  have inTime : (d.send id s).1 ≠ .error .timedOut := by
    rw [Database.send_of_open alive faultless]
    split <;> simp
  have arrived : c.send n s = ((d.send id s).1, c.setPool n (q.release id) (d.send id s).2) := by
    rw [Cluster.send, present]
    simp only [sent]
  have answered := Database.sameService_send_of_open alive faultless s
  refine ⟨id, d, alive, same, by rw [arrived], by rw [arrived]; rfl, ?_⟩
  rw [arrived]
  exact ready.of_sameService ((later.of_sameService answered).release id)
    (same.toSameService.trans answered)

/-! ### Opening a store -/

theorem noteAll_database (traces : List Trace) (c : Cluster) :
    (c.noteAll traces).database = c.database := by
  induction traces generalizing c with
  | nil => rfl
  | cons t rest ih => exact ih (c.note t)

theorem ready_of_connectPool {address : DatabaseAddress} {settings : DatabaseSettings}
    (connected : (c.connectPool address settings).1 = .ok n) (faultless : c.database.faults = []) :
    (c.connectPool address settings).2.Ready n ∧
      c.database.SameContent (c.connectPool address settings).2.database := by
  unfold connectPool at connected ⊢
  split at connected
  next p d opened =>
    obtain ⟨serves, same⟩ := Pool.serves_of_opened opened
    obtain rfl : c.pools.length = n := Except.ok.inj connected
    exact ⟨⟨⟨p, by simp, serves⟩, same.faults faultless⟩, same⟩
  · cases connected
  · cases connected

theorem ready_of_openPool {settings : DatabaseSettings}
    (opened : (c.openPool settings).1 = .ok n) (faultless : c.database.faults = []) :
    (c.openPool settings).2.Ready n ∧ c.database.SameContent (c.openPool settings).2.database := by
  unfold openPool at opened ⊢
  simp only at opened ⊢
  split at opened
  · cases opened
  next address _ =>
    split at opened
    · cases opened
    next capacity =>
      rw [if_neg capacity]
      have ready := ready_of_connectPool opened (by rwa [noteAll_database])
      rwa [noteAll_database] at ready

theorem Ready.setUp (ready : c.Ready n) :
    (c.setUp n).2.Ready n ∧ c.database.SameContent (c.setUp n).2.database := by
  obtain ⟨p, present, serves⟩ := ready.serves
  obtain ⟨id, q, d, lent, alive, same, later⟩ := serves.lends_acquire
  have done := Setup.spares_all id .relations d
  have same : c.database.SameContent (d.setUp id).2 := same.trans done
  have arrived : c.setUp n = ((d.setUp id).1, c.setPool n (q.release id) (d.setUp id).2) := by
    rw [Cluster.setUp, present]
    simp only [lent]
  rw [arrived]
  exact ⟨ready.of_sameService ((later.of_sameService done.toSameService).release id)
    same.toSameService, same⟩

/-- A store that could be opened is ready, and the tables have the rows that they had. -/
theorem ready_of_openStore {settings : DatabaseSettings}
    (opened : (c.openStore settings).1 = .ok n) (faultless : c.database.faults = []) :
    (c.openStore settings).2.Ready n ∧
      c.database.SameContent (c.openStore settings).2.database := by
  unfold openStore at opened ⊢
  split at opened
  · cases opened
  next m pooled found =>
    split at opened
    · cases opened
    next later done =>
      obtain rfl : m = n := Except.ok.inj opened
      have pool := ready_of_openPool (congrArg Prod.fst found) faultless
      rw [found] at pool
      have ready := pool.1.setUp
      rw [done] at ready
      exact ⟨ready.1, pool.2.trans ready.2⟩

end Cluster

end Entitlement
