import Entitlement.Proofs.CatchUp
import Entitlement.Proofs.Readiness

/-!
# What a pool can spare

On a database without faults a connection that was opened stays open, whatever is sent over it or
over others, and a pool lends and takes back without touching what its borrowers keep. So a listener
that has its connection keeps it for good, and the pool has one less to spare. Tables that were set
up by this program, or by nobody, are found to be in order.
-/

namespace Entitlement

namespace Database

variable {d e f : Database} {id : Nat}

/-! ### Connections that stay open -/

/-- Clients are received as before, no connection has ended, and no number is given again. -/
structure Sustains (d e : Database) : Prop extends SameService d e where
  alive : ∀ id, d.isOpen id = true → e.isOpen id = true
  numbers : d.nextConnection ≤ e.nextConnection

theorem Sustains.refl (d : Database) : d.Sustains d :=
  ⟨(SameContent.refl d).toSameService, fun _ alive => alive, Nat.le_refl _⟩

theorem Sustains.trans (first : d.Sustains e) (second : e.Sustains f) : d.Sustains f where
  toSameService := first.toSameService.trans second.toSameService
  alive id alive := second.alive id (first.alive id alive)
  numbers := Nat.le_trans first.numbers second.numbers

theorem isOpen_eq_any (id : Nat) (d : Database) :
    d.isOpen id = d.connections.any fun c => c.id == id := by
  rw [Bool.eq_iff_iff, isOpen, connection?, List.find?_isSome, List.any_eq_true]

/-- Nothing has changed but what the connections listen to and have not read. -/
theorem Sustains.of_map (change : Connection → Connection) (same : ∀ c, (change c).id = c.id)
    (service : d.SameService e) (connections : e.connections = d.connections.map change)
    (numbers : e.nextConnection = d.nextConnection) : d.Sustains e := by
  refine ⟨service, fun id alive => ?_, Nat.le_of_eq numbers.symm⟩
  rw [isOpen_eq_any] at alive ⊢
  simpa [connections, List.any_map, Function.comp_def, same] using alive

theorem Sustains.of_connections (service : d.SameService e)
    (connections : e.connections = d.connections)
    (numbers : e.nextConnection = d.nextConnection) : d.Sustains e :=
  .of_map id (fun _ => rfl) service (by simp [connections]) numbers

theorem sustains_modifyConnection (d : Database) (id : Nat) (change : Connection → Connection)
    (same : ∀ c, (change c).id = c.id) : d.Sustains (d.modifyConnection id change) := by
  refine .of_map (fun c => if c.id = id then change c else c) (fun c => ?_)
    (sameContent_modifyConnection d change).toSameService rfl rfl
  split
  · exact same c
  · rfl

theorem sustains_setMigration (d : Database) (a : AppliedMigration) :
    d.Sustains (d.setMigration a) :=
  .of_connections (sameContent_setMigration d a).toSameService rfl rfl

theorem sustains_setMigrations (applied : List AppliedMigration) (d : Database) :
    d.Sustains (applied.foldl (fun d a => d.setMigration a) d) := by
  induction applied generalizing d with
  | nil => exact .refl d
  | cons a rest ih => exact (sustains_setMigration d a).trans (ih _)

theorem sustains_enter (d : Database) (s : Statement) (outcome : StatementOutcome) :
    d.Sustains (d.enter s outcome) := by
  have same : (d.enter s outcome).connections = d.connections ∧
      (d.enter s outcome).nextConnection = d.nextConnection := by
    unfold enter
    split <;> exact ⟨rfl, rfl⟩
  exact .of_connections (sameContent_enter d s outcome).toSameService same.1 same.2

theorem sustains_notify (d : Database) (channel payload : String) :
    d.Sustains (d.notify channel payload) := by
  refine .of_map (fun c =>
    if c.listening.contains channel then { c with unread := c.unread ++ [payload] } else c)
    (fun c => ?_) ⟨rfl, rfl, rfl, fun faultless => faultless⟩ rfl rfl
  split <;> rfl

theorem sustains_keepBooks (d : Database) (id : Nat) (b : Bookkeeping) :
    d.Sustains (d.keepBooks id b) := by
  cases b with
  | start | rollback => exact sustains_modifyConnection d id _ fun _ => rfl
  | record m =>
    rw [keepBooks, recordMigration]
    split
    · exact sustains_setMigration d _
    · exact sustains_modifyConnection d id _ fun _ => rfl
  | commit =>
    rw [keepBooks, Database.commit]
    exact (sustains_modifyConnection d id (fun c => { c with transaction := none })
      fun _ => rfl).trans (sustains_setMigrations _ _)
  | databaseName | lock | createTable | unfinished | applied | run | duration | unlock =>
    exact .refl d

theorem sustains_execute (d : Database) (id : Nat) (s : Statement) :
    d.Sustains (d.execute id s).2 := by
  cases s with
  | insert t row | delete t row =>
    cases t <;> exact .of_connections ⟨rfl, rfl, rfl, fun faultless => faultless⟩ rfl rfl
  | select | probe => exact .refl d
  | notify channel payload => exact sustains_notify d channel payload
  | listen | unlisten => exact sustains_modifyConnection d id _ fun _ => rfl
  | bookkeeping b => exact sustains_keepBooks d id b

theorem sustains_send_of_open (isOpen : d.isOpen id = true) (faultless : d.faults = [])
    (s : Statement) : d.Sustains (d.send id s).2 := by
  rw [send_of_open isOpen faultless]
  split
  · exact sustains_enter d s _
  · exact (sustains_execute d id s).trans (sustains_enter _ s _)

theorem sustains_connect (d : Database) (address : DatabaseAddress) :
    d.Sustains (d.connect address).2 := by
  unfold connect
  split
  · split <;> exact .refl d
  · split
    · exact .refl d
    · refine ⟨⟨rfl, rfl, rfl, fun faultless => faultless⟩, fun id alive => ?_, Nat.le_succ _⟩
      rw [isOpen_eq_any] at alive ⊢
      simp only [List.any_append, alive, Bool.true_or]

theorem sustains_readNotifications (d : Database) (id : Nat) :
    d.Sustains (d.readNotifications id).2 := by
  unfold readNotifications
  split
  · exact .refl d
  · exact sustains_modifyConnection d id _ fun _ => rfl

end Database

/-! ### What a pool does to what is kept -/

namespace Pool

variable {p q : Pool} {d e : Database}

/-- The pools differ at most in the connections that they have at hand. -/
structure SameTerms (p q : Pool) : Prop where
  closed : q.closed = p.closed
  timeout : q.timeout = p.timeout
  capacity : q.capacity = p.capacity
  address : q.address = p.address
  held : q.held = p.held

theorem SameTerms.refl (p : Pool) : p.SameTerms p := ⟨rfl, rfl, rfl, rfl, rfl⟩

theorem SameTerms.trans {r : Pool} (first : p.SameTerms q) (second : q.SameTerms r) :
    p.SameTerms r :=
  ⟨second.closed.trans first.closed, second.timeout.trans first.timeout,
    second.capacity.trans first.capacity, second.address.trans first.address,
    second.held.trans first.held⟩

/-- The pool is on its old terms, and all that the database has noticed is a client who connects. -/
structure Spares (p : Pool) (d : Database) (later : Pool × Database) : Prop where
  terms : p.SameTerms later.1
  database : later.2 = d ∨ later.2 = (d.connect p.address).2

theorem Spares.sustains {later : Pool × Database} (spares : p.Spares d later) :
    d.Sustains later.2 := by
  rcases spares.database with same | connected
  · rw [same]
    exact .refl d
  · rw [connected]
    exact d.sustains_connect p.address

theorem Spares.migrations {later : Pool × Database} (spares : p.Spares d later) :
    later.2.migrations = d.migrations := by
  rcases spares.database with same | connected
  · rw [same]
  · rw [connected]
    unfold Database.connect
    split
    · split <;> rfl
    · split <;> rfl

theorem takeIn_of_open (isOpen : p.closed = false) (d : Database) :
    ∃ q, p.takeIn d = (q, d) ∧ p.SameTerms q := by
  rw [takeIn, if_neg (by simp [isOpen])]
  exact ⟨_, rfl, rfl, rfl, rfl, rfl, rfl⟩

theorem spares_connect (isOpen : p.closed = false) (d : Database) :
    p.Spares d (p.connect d).2 := by
  unfold connect
  split
  · exact ⟨.refl p, .inl rfl⟩
  · obtain ⟨q, taken, terms⟩ := takeIn_of_open isOpen (d.connect p.address).2
    simp only [taken]
    exact ⟨terms, .inr rfl⟩

theorem spares_lend (isOpen : p.closed = false) (d : Database) : p.Spares d (p.lend d).2 := by
  unfold lend
  split
  · exact spares_connect isOpen d
  next id rest found =>
    have terms : p.SameTerms { p with idle := rest } := ⟨rfl, rfl, rfl, rfl, rfl⟩
    have stillOpen : ({ p with idle := rest } : Pool).closed = false := isOpen
    simp only
    split
    · obtain ⟨q, taken, later⟩ := takeIn_of_open stillOpen d
      simp only [taken]
      exact ⟨terms.trans later, .inl rfl⟩
    · obtain ⟨later, database⟩ := spares_connect stillOpen d
      exact ⟨terms.trans later, database⟩

theorem spares_acquire (isOpen : p.closed = false) (d : Database) :
    p.Spares d (p.acquire d).2 := by
  obtain ⟨q, taken, terms⟩ := takeIn_of_open isOpen d
  rw [acquire, if_neg (by simp [isOpen])]
  by_cases full : p.free = 0
  · simp only [if_pos full, taken]
    split
    · exact ⟨terms, .inl rfl⟩
    · obtain ⟨later, database⟩ := spares_lend (terms.closed.trans isOpen) d
      rw [terms.address] at database
      exact ⟨terms.trans later, database⟩
  · simp only [if_neg full]
    exact spares_lend isOpen d

/-- The pool has every number at most once, those that it has just lent included, and all of them
were given by the database. -/
structure Tidy (p : Pool) (d : Database) (lent : List Nat) : Prop where
  nodup : (lent ++ (p.idle ++ (p.returning ++ p.held))).Nodup
  given : ∀ id ∈ lent ++ (p.idle ++ (p.returning ++ p.held)), id < d.nextConnection

theorem Tidy.of_sustains {lent : List Nat} (tidy : p.Tidy d lent) (sustains : d.Sustains e) :
    p.Tidy e lent :=
  ⟨tidy.nodup, fun id had => Nat.lt_of_lt_of_le (tidy.given id had) sustains.numbers⟩

/-- Numbers may be dropped. -/
theorem Tidy.of_sublist {lent fewer : List Nat} (tidy : p.Tidy d lent)
    (sublist : (fewer ++ (q.idle ++ (q.returning ++ q.held))).Sublist
      (lent ++ (p.idle ++ (p.returning ++ p.held)))) : q.Tidy d fewer :=
  ⟨tidy.nodup.sublist sublist, fun id had => tidy.given id (sublist.subset had)⟩

theorem Tidy.of_perm {lent other : List Nat} (tidy : p.Tidy d lent)
    (perm : (other ++ (q.idle ++ (q.returning ++ q.held))).Perm
      (lent ++ (p.idle ++ (p.returning ++ p.held)))) : q.Tidy d other :=
  ⟨perm.nodup_iff.mpr tidy.nodup, fun id had => tidy.given id (perm.subset had)⟩

theorem Tidy.takeIn {lent : List Nat} (tidy : p.Tidy d lent) (isOpen : p.closed = false) :
    (p.takeIn d).1.Tidy (p.takeIn d).2 lent := by
  rw [Pool.takeIn, if_neg (by simp [isOpen])]
  apply tidy.of_sublist
  rw [List.nil_append, List.append_assoc]
  exact .append (.refl lent) (.append (.refl p.idle) (.append List.filter_sublist (.refl p.held)))

/-- The number of a new connection is new. -/
theorem Tidy.connected (tidy : p.Tidy d []) (address : DatabaseAddress) :
    p.Tidy (d.connect address).2 (d.connect address).1.toOption.toList := by
  unfold Database.connect
  split
  · split <;> exact tidy
  · split
    · exact tidy
    · refine ⟨List.nodup_cons.mpr ⟨fun had => ?_, tidy.nodup⟩, ?_⟩
      · exact Nat.lt_irrefl _ (tidy.given _ had)
      · intro id had
        rcases List.mem_cons.mp had with rfl | before
        · exact Nat.lt_succ_self _
        · exact Nat.lt_succ_of_lt (tidy.given id before)

theorem Tidy.connect (tidy : p.Tidy d []) (isOpen : p.closed = false) :
    (p.connect d).2.1.Tidy (p.connect d).2.2 (p.connect d).1.toOption.toList := by
  unfold Pool.connect
  split
  · exact tidy
  · exact (tidy.connected p.address).takeIn isOpen

theorem Tidy.lend (tidy : p.Tidy d []) (isOpen : p.closed = false) :
    (p.lend d).2.1.Tidy (p.lend d).2.2 (p.lend d).1.toOption.toList := by
  unfold Pool.lend
  split
  · exact tidy.connect isOpen
  next id rest found =>
    have stillOpen : ({ p with idle := rest } : Pool).closed = false := isOpen
    have lent : ({ p with idle := rest } : Pool).Tidy d [id] := by
      apply tidy.of_perm
      rw [found]
      exact .refl _
    simp only
    split
    · exact lent.takeIn stillOpen
    -- It has ended, and another one takes its place.
    · exact Tidy.connect (lent.of_sublist (List.sublist_cons_self _ _)) stillOpen

theorem Tidy.acquire (tidy : p.Tidy d []) (isOpen : p.closed = false) :
    (p.acquire d).2.1.Tidy (p.acquire d).2.2 (p.acquire d).1.toOption.toList := by
  obtain ⟨q, taken, terms⟩ := takeIn_of_open isOpen d
  have arrived := tidy.takeIn isOpen
  rw [taken] at arrived
  rw [Pool.acquire, if_neg (by simp [isOpen])]
  by_cases full : p.free = 0
  · simp only [if_pos full, taken]
    split
    · exact arrived
    · exact arrived.lend (terms.closed.trans isOpen)
  · simp only [if_neg full]
    exact tidy.lend isOpen

/-- A connection that is given back was not kept. -/
theorem Tidy.release {id : Nat} (tidy : p.Tidy d [id]) :
    (p.release id).held = p.held ∧ (p.release id).Tidy d [] := by
  have absent : id ∉ p.held := fun kept => (List.nodup_cons.mp tidy.nodup).1
    (List.mem_append_right p.idle (List.mem_append_right p.returning kept))
  have kept : (p.release id).held = p.held := List.erase_of_not_mem absent
  refine ⟨kept, tidy.of_perm ?_⟩
  rw [kept]
  have moved : ([] ++ ((p.release id).idle ++ ((p.release id).returning ++ p.held))) =
      (p.idle ++ p.returning) ++ id :: p.held := by simp [Pool.release]
  rw [moved, ← List.append_assoc p.idle]
  exact List.perm_middle

theorem Tidy.hold {id : Nat} (tidy : p.Tidy d [id]) : (p.hold id).Tidy d [] := by
  apply tidy.of_perm
  have moved : ([] ++ ((p.hold id).idle ++ ((p.hold id).returning ++ (p.hold id).held))) =
      (p.idle ++ (p.returning ++ p.held)) ++ [id] := by simp [Pool.hold]
  rw [moved]
  exact List.perm_append_comm

/-- A pool that serves lends a connection on its old terms. -/
theorem Serves.exists_acquire (serves : p.Serves d) (tidy : p.Tidy d []) :
    ∃ id q e, p.acquire d = (.ok id, q, e) ∧ e.isOpen id = true ∧ p.Spares d (q, e) ∧
      q.Serves e ∧ q.Tidy e [id] := by
  obtain ⟨id, q, e, lent, alive, -, later⟩ := serves.lends_acquire
  have spares := spares_acquire serves.isOpen d
  have tidied := tidy.acquire serves.isOpen
  rw [lent] at spares tidied
  exact ⟨id, q, e, lent, alive, spares, later, tidied⟩

/-- A pool that is opened has lent nothing yet. -/
theorem Serves.exists_opened {address : DatabaseAddress} {capacity timeout : Nat}
    (serves : ({ address, capacity, timeout } : Pool).Serves d) :
    ∃ q e, opened address capacity timeout d = (.ok q, e) ∧ q.capacity = capacity ∧ q.held = [] ∧
      q.Serves e ∧ q.Tidy e [] ∧ d.Sustains e ∧ e.migrations = d.migrations := by
  obtain ⟨id, q, e, lent, -, spares, later, tidy⟩ := serves.exists_acquire ⟨.nil, nofun⟩
  have tidied : ({ q with idle := q.idle ++ [id] } : Pool).Tidy e [] := by
    apply tidy.of_perm
    have moved : ([] ++ (q.idle ++ [id] ++ (q.returning ++ q.held))) =
        q.idle ++ id :: (q.returning ++ q.held) := by simp
    rw [moved]
    exact List.perm_middle
  refine ⟨{ q with idle := q.idle ++ [id] }, e, ?_, spares.terms.capacity, spares.terms.held,
    { later with }, tidied, spares.sustains, spares.migrations⟩
  simp only [opened, lent]

end Pool

/-! ### Tables that are in order -/

namespace Setup

variable {α β : Type} {connection : Nat} {d : Database}

/-- The database can be worked on over the connection. -/
structure Workable (connection : Nat) (d : Database) : Prop where
  isOpen : d.isOpen connection = true
  faultless : d.faults = []
  lenient : Database.Lenient d.objection?

theorem Workable.of_sustains {e : Database} (workable : Workable connection d)
    (sustains : d.Sustains e) : Workable connection e :=
  ⟨sustains.alive _ workable.isOpen, sustains.faults workable.faultless,
    sustains.lenient workable.lenient⟩

/-- The work on such a database succeeds. -/
def Succeeds (connection : Nat) (work : Setup Unit) : Prop :=
  ∀ d, Workable connection d → ∃ e, work.run.run d = (.ok (), e) ∧ d.Sustains e

theorem run_bind_of {work : Setup α} {next : α → Setup β} {a : α} {e : Database}
    (ran : work.run.run d = (.ok a, e)) :
    (work >>= next).run.run d = (next a).run.run e := by
  rw [ExceptT.run_bind, StateT.run_bind, ran]
  rfl

theorem Succeeds.bind {work : Setup Unit} {next : Unit → Setup Unit}
    (succeeds : Succeeds connection work) (later : Succeeds connection (next ())) :
    Succeeds connection (work >>= next) := by
  intro d workable
  obtain ⟨e, ran, first⟩ := succeeds d workable
  obtain ⟨f, followed, second⟩ := later e (workable.of_sustains first)
  exact ⟨f, (run_bind_of ran).trans followed, first.trans second⟩

/-- Bookkeeping meets no objection. -/
theorem run_send (workable : Workable connection d) (b : Bookkeeping) :
    ∃ rows, (send connection b).run.run d =
      (.ok (.ok rows), (d.keepBooks connection b).enter (.bookkeeping b) .succeeded) := by
  have sent := Database.send_of_open workable.isOpen workable.faultless (.bookkeeping b)
  have unobjected : d.objection? (.bookkeeping b) = none := workable.lenient _ nofun
  rw [unobjected] at sent
  have ran : (send connection b).run.run d =
    (.ok (d.send connection (.bookkeeping b)).1, (d.send connection (.bookkeeping b)).2) := rfl
  rw [sent] at ran
  exact ⟨_, ran⟩

/-- A step of the work that fails only with its statement. -/
theorem run_step (workable : Workable connection d) (b : Bookkeeping)
    (blame : DatabaseFailure → MigrationFailure) :
    (do match ← send connection b with
        | .ok _ => return
        | .error cause => throw (blame cause) : Setup Unit).run.run d =
      (.ok (), (d.keepBooks connection b).enter (.bookkeeping b) .succeeded) := by
  obtain ⟨rows, sent⟩ := run_send workable b
  rw [run_bind_of sent]
  rfl

theorem succeeds_step (b : Bookkeeping) (blame : DatabaseFailure → MigrationFailure) :
    Succeeds connection (do
      match ← send connection b with
      | .ok _ => return
      | .error cause => throw (blame cause)) :=
  fun d workable => ⟨_, run_step workable b blame,
    (Database.sustains_keepBooks d connection b).trans (Database.sustains_enter _ _ _)⟩

theorem succeeds_keep (b : Bookkeeping) : Succeeds connection (keep connection b) :=
  succeeds_step b .bookkeeping

theorem succeeds_apply (m : Migration) : Succeeds connection (apply connection m) := by
  have attempted : Succeeds connection (do
      runScript connection m
      keep connection (.record m)
      keep connection .commit) :=
    (succeeds_step (.run m) (.script m.version)).bind
      ((succeeds_keep (.record m)).bind (succeeds_keep .commit))
  -- Nothing is thrown, so nothing is caught.
  have uncaught (handle : MigrationFailure → Setup Unit) : Succeeds connection (tryCatch (do
      runScript connection m
      keep connection (.record m)
      keep connection .commit) handle) := by
    intro d workable
    obtain ⟨e, ran, sustains⟩ := attempted d workable
    refine ⟨e, ?_, sustains⟩
    rw [ExceptT.run_tryCatch, StateT.run_bind, ran]
    rfl
  exact (succeeds_keep .start).bind ((uncaught _).bind (succeeds_keep (.duration m.version)))

/-- Most of the bookkeeping only asks. -/
theorem run_keep (workable : Workable connection d) {b : Bookkeeping}
    (asks : (d.keepBooks connection b).enter (.bookkeeping b) .succeeded = d) :
    (keep connection b).run.run d = (.ok (), d) := by
  have ran := run_step workable b .bookkeeping
  rw [asks] at ran
  exact ran

/-- A look at the versions that finds nothing wrong. -/
theorem run_look (workable : Workable connection d) {b : Bookkeeping}
    (asks : (d.keepBooks connection b).enter (.bookkeeping b) .succeeded = d)
    {wrong : AppliedMigration → Bool} (right : d.migrations.find? wrong = none)
    (blame : Nat → MigrationFailure) :
    (do keep connection b
        match (← get).migrations.find? wrong with
        | some a => throw (blame a.version)
        | none => return : Setup Unit).run.run d = (.ok (), d) := by
  have looked : (get : Setup Database).run.run d = (.ok d, d) := rfl
  rw [run_bind_of (run_keep workable asks), run_bind_of looked, right]
  rfl

/-- Every version that was applied is this one, by the same script, and was finished. -/
def InOrder (m : Migration) (d : Database) : Prop :=
  ∀ a ∈ d.migrations, a.success = true ∧ a.version = m.version ∧ a.script = m.script

variable {m : Migration}

theorem ensure_of_inOrder (workable : Workable connection d) (inOrder : InOrder m d) :
    ∃ e, (ensure connection m).run.run d = (.ok (), e) ∧ d.Sustains e := by
  have looked : (get : Setup Database).run.run d = (.ok d, d) := rfl
  rw [ensure, run_bind_of looked]
  cases found : d.migration? m.version with
  | none => exact succeeds_apply m d workable
  | some a =>
    have script : ¬ a.script ≠ m.script :=
      not_not_intro (inOrder a (List.mem_of_find?_eq_some found)).2.2
    refine ⟨d, ?_, .refl d⟩
    simp only [if_neg script]
    rfl

theorem all_of_inOrder (workable : Workable connection d) (inOrder : InOrder m d) :
    ∃ e, (all connection m).run.run d = (.ok (), e) ∧ d.Sustains e := by
  have finished : d.migrations.find? (!·.success) = none := by
    rw [List.find?_eq_none]
    intro a applied
    simp [(inOrder a applied).1]
  have known : d.migrations.find? (·.version ≠ m.version) = none := by
    rw [List.find?_eq_none]
    intro a applied
    simp [(inOrder a applied).2.1]
  have checkedFinished : (checkFinished connection).run.run d = (.ok (), d) :=
    run_look workable rfl finished .unfinished
  have checkedKnown : (checkKnown connection m).run.run d = (.ok (), d) :=
    run_look workable rfl known .unknown
  obtain ⟨e, ensured, sustains⟩ := ensure_of_inOrder workable inOrder
  have still := workable.of_sustains sustains
  refine ⟨e, ?_, sustains⟩
  rw [all, run_bind_of (run_keep workable rfl), run_bind_of (run_keep workable rfl),
    run_bind_of (run_keep workable rfl), run_bind_of checkedFinished, run_bind_of checkedKnown,
    run_bind_of ensured, run_bind_of (run_keep still rfl), run_keep still rfl]

end Setup

/-! ### A listener and its connection -/

namespace Listener

variable {l : Listener} {p q : Pool} {d e : Database}

/-- The listener has its connection, which is all that the pool has lent for good. -/
structure Retains (l : Listener) (p : Pool) (d : Database) : Prop where
  isOpen : p.closed = false
  patient : p.timeout ≠ 0
  address : p.address = d.address
  welcome : d.refusal = none
  faultless : d.faults = []
  own : ∃ id, p.held = [id] ∧ l.connection = some id ∧ d.isOpen id = true
  due : l.due = none
  tidy : p.Tidy d []

theorem Retains.of_sustains (retains : l.Retains p d) (sustains : d.Sustains e) :
    l.Retains p e where
  isOpen := retains.isOpen
  patient := retains.patient
  address := retains.address.trans sustains.address.symm
  welcome := sustains.refusal.trans retains.welcome
  faultless := sustains.faults retains.faultless
  own := by
    obtain ⟨id, held, connection, alive⟩ := retains.own
    exact ⟨id, held, connection, sustains.alive id alive⟩
  due := retains.due
  tidy := retains.tidy.of_sustains sustains

theorem Retains.of_sameTerms (retains : l.Retains p d) (terms : p.SameTerms q)
    (tidy : q.Tidy d []) : l.Retains q d where
  isOpen := terms.closed.trans retains.isOpen
  patient := terms.timeout ▸ retains.patient
  address := terms.address.trans retains.address
  welcome := retains.welcome
  faultless := retains.faultless
  own := by
    rw [terms.held]
    exact retains.own
  due := retains.due
  tidy := tidy

/-- What the listener hands on is another matter. -/
theorem Retains.of_outlet (retains : l.Retains p d) (outlet : Channel) :
    { l with outlet }.Retains p d :=
  ⟨retains.isOpen, retains.patient, retains.address, retains.welcome, retains.faultless,
    retains.own, retains.due, retains.tidy⟩

theorem start_of_serves (serves : p.Serves d) (tidy : p.Tidy d []) (faultless : d.faults = [])
    (lenient : Database.Lenient d.objection?) (number : Nat) {channel : String}
    (named : Statement.channelName channel ≠ "") :
    ∃ l q e, start number channel p d = (.ok l, q, e) ∧ l.pool = number ∧ l.channel = channel ∧
      d.Sustains e ∧ (p.held = [] → l.Retains q e) ∧ q.capacity = p.capacity := by
  obtain ⟨id, q, e, lent, alive, spares, later, lentTidy⟩ := serves.exists_acquire tidy
  have stillFaultless := spares.sustains.faults faultless
  have sent := Database.send_of_open alive stillFaultless (.listen channel false)
  have sustains := Database.sustains_send_of_open alive stillFaultless (.listen channel false)
  have unobjected : e.objection? (.listen channel false) = none := by
    rw [spares.sustains.lenient lenient (.listen channel false) nofun]
    simp [Statement.objection?, named]
  rw [unobjected] at sent
  simp only at sent
  rw [sent] at sustains
  refine ⟨{ pool := number, channel, outlet := .opened Listener.capacity, connection := some id },
    q.hold id, _, ?_, rfl, rfl, spares.sustains.trans sustains, fun free => ?_,
    spares.terms.capacity⟩
  · simp only [start, listen, lent, sent]
    rfl
  · have kept : q.held = p.held := spares.terms.held
    have held : (q.hold id).held = [id] := by simp [Pool.hold, kept, free]
    exact {
      isOpen := later.isOpen
      patient := later.patient
      address := later.address.trans sustains.address.symm
      welcome := sustains.refusal.trans later.welcome
      faultless := sustains.faults stillFaultless
      own := ⟨id, held, rfl, sustains.alive id alive⟩
      due := rfl
      tidy := lentTidy.hold.of_sustains sustains }

theorem hear_notified (now : Nat) (payloads : List String) (l : Listener) :
    ∃ outlet, (payloads.map Finding.notified).foldl (hear now) l = { l with outlet } := by
  induction payloads generalizing l with
  | nil => exact ⟨l.outlet, rfl⟩
  | cons payload rest ih =>
    obtain ⟨outlet, heard⟩ := ih (l.hear now (.notified payload))
    exact ⟨outlet, heard⟩

/-- A listener that has its connection reads what came, and leaves the pool alone. -/
theorem Retains.wake (retains : l.Retains p d) (now : Nat) :
    ∃ traces outlet e, l.wake now p d = (traces, { l with outlet }, p, e) ∧ d.Sustains e := by
  obtain ⟨id, -, connection, alive⟩ := retains.own
  have same : { l with due := none } = l := by rw [← retains.due]
  cases due : l.isDue now with
  | false => exact ⟨[], l.outlet, d, by simp [Listener.wake, due], .refl d⟩
  | true =>
    obtain ⟨outlet, heard⟩ := hear_notified now (d.readNotifications id).1 l
    have looked : l.look p d =
        ((d.readNotifications id).1.map .notified, l, p, (d.readNotifications id).2) := by
      simp [look, retains.isOpen, connection, alive, read]
    refine ⟨((d.readNotifications id).1.map Finding.notified).flatMap (·.traces l.channel), outlet,
      (d.readNotifications id).2, ?_, d.sustains_readNotifications id⟩
    rw [Listener.wake, if_pos due, same, looked, ← heard]

theorem Retains.serves (retains : l.Retains p d) (roomy : 2 ≤ p.capacity) : p.Serves d := by
  obtain ⟨id, held, -⟩ := retains.own
  refine ⟨retains.isOpen, retains.patient, ?_, retains.address, retains.welcome⟩
  rw [held]
  exact roomy

/-- A pool with more than one connection sends on another one than that of the listener. -/
theorem Retains.send_of_roomy (retains : l.Retains p d) (roomy : 2 ≤ p.capacity) (s : Statement) :
    ∃ answer q e, p.send s d = (answer, q, e) ∧
      (answer.map fun _ => ()) = Database.verdict d.objection? s ∧ q.capacity = p.capacity ∧
      l.Retains q e ∧ d.Sustains e := by
  obtain ⟨id, q, e, lent, alive, spares, -, tidy⟩ :=
    (retains.serves roomy).exists_acquire retains.tidy
  have sustained := spares.sustains
  have faultless := sustained.faults retains.faultless
  have sustains := Database.sustains_send_of_open alive faultless s
  have answered : ((e.send id s).1.map fun _ => ()) = Database.verdict d.objection? s := by
    rw [Database.send_of_open alive faultless, sustained.objections, Database.verdict]
    cases d.objection? s <;> rfl
  have sent : p.send s d = ((e.send id s).1, q.release id, (e.send id s).2) := by
    rw [Pool.send, lent]
  obtain ⟨kept, released⟩ := tidy.release
  have terms : p.SameTerms (q.release id) :=
    ⟨spares.terms.closed, spares.terms.timeout, spares.terms.capacity, spares.terms.address,
      kept.trans spares.terms.held⟩
  exact ⟨_, _, _, sent, answered, terms.capacity,
    (retains.of_sustains (sustained.trans sustains)).of_sameTerms terms
      (released.of_sustains sustains), sustained.trans sustains⟩

/-- The only connection of a pool is the listener's, and whoever wants it waits in vain. -/
theorem Retains.send_of_single (retains : l.Retains p d) (single : p.capacity = 1)
    (s : Statement) :
    ∃ q, p.send s d = (.error .timedOut, q, d) ∧ q.capacity = p.capacity ∧ l.Retains q d := by
  obtain ⟨id, held, -⟩ := retains.own
  obtain ⟨q, taken, terms⟩ := Pool.takeIn_of_open retains.isOpen d
  have arrived := retains.tidy.takeIn retains.isOpen
  rw [taken] at arrived
  have full : p.free = 0 := by simp [Pool.free, held, single]
  have stillFull : q.free = 0 := by simp [Pool.free, terms.held, terms.capacity, held, single]
  refine ⟨q, ?_, terms.capacity, retains.of_sameTerms terms arrived⟩
  simp [Pool.send, Pool.acquire, retains.isOpen, full, taken, stillFull]

end Listener

end Entitlement
