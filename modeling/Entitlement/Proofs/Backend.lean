import Entitlement.Proofs.Readiness
import Entitlement.Proofs.Storage

/-!
# The store in the database behaves like the store in memory

Each call of a store that is ready reaches the database as one statement. If the database has
nothing against the statement, it does what the statement says, and what the statements say is what
the sets in memory do. A statement that it refuses, such as one with a null character, changes
nothing.
-/

namespace Entitlement

/-! ### The database and its statements -/

namespace Database

variable {d e : Database} {tables : Sql.Tables}

/-- The database has the rows of the tables. -/
def Keeps (d : Database) (tables : Sql.Tables) : Prop :=
  ∀ t row, row ∈ d.rows t ↔ row ∈ tables.rows t

theorem Keeps.of_sameContent (keeps : d.Keeps tables) (same : d.SameContent e) :
    e.Keeps tables := by
  intro t row
  rw [same.rows, keeps]

/-- The database does with the statement of a call what its text says. -/
theorem Keeps.execute (keeps : d.Keeps tables) (id : Nat) (call : StoreCall) :
    (d.execute id call.statement).1 = (Sql.perform call.statement tables).1 ∧
      (d.execute id call.statement).2.Keeps (Sql.perform call.statement tables).2 := by
  cases call with
  | write change fact =>
    cases change with
    | insert =>
      rw [StoreCall.statement, Statement.ofWrite]
      refine ⟨by rw [Sql.perform_insert fact.length_row]; rfl, ?_⟩
      intro t row
      rw [Sql.mem_perform_insert fact.length_row, ← keeps t, Database.execute, rows_setRows]
      split
      next own => subst own; simp [SortedBy.mem_insert]
      next other => simp [other]
    | delete =>
      rw [StoreCall.statement, Statement.ofWrite]
      refine ⟨by rw [Sql.perform_delete]; rfl, ?_⟩
      intro t row
      rw [Sql.mem_perform_delete fact.length_row, ← keeps t, Database.execute, rows_setRows]
      split
      next own => subst own; simp [SortedBy.mem_erase]
      next other => simp [other]
  | query pattern =>
    rw [StoreCall.statement, Statement.ofQuery]
    have answered : Sql.perform (.select pattern.table pattern.row) tables =
        ((d.rows pattern.table).toList.filter pattern.row.selects, tables) := by
      apply Sql.perform_select_eq pattern.length_row ((d.rows pattern.table).ascending.filter _)
      intro row
      rw [List.mem_filter, and_comm, ← keeps]
      rfl
    rw [answered]
    exact ⟨rfl, keeps⟩

end Database

/-! ### The store of a cluster -/

namespace StoreAnswer

def ofWrite : Except StoreFailure Unit → StoreAnswer
  | .ok () => wrote
  | .error cause => failed cause

def ofQuery : Except StoreFailure (List Fact) → StoreAnswer
  | .ok facts => found facts
  | .error cause => failed cause

end StoreAnswer

namespace Cluster

variable {c : Cluster} {n : Nat} {tables : Sql.Tables}

/-- The store over pool `n`. -/
def store (n : Nat) : Store Cluster
  | .write change fact, c =>
    let (answer, later) := c.writeRow n change fact
    (.ofWrite answer, later)
  | .query pattern, c =>
    let (answer, later) := c.queryRows n pattern
    (.ofQuery answer, later)

theorem store_eq (n : Nat) (call : StoreCall) (c : Cluster) :
    store n call c =
      (match (c.send n call.statement).1 with
        | .ok rows => call.read rows
        | .error cause => .failed cause.toStoreFailure,
      (c.send n call.statement).2) := by
  cases call with
  | write change fact =>
    simp only [store, writeRow, StoreCall.statement]
    cases (c.send n (.ofWrite change fact)).1 <;> rfl
  | query pattern =>
    simp only [store, queryRows, StoreCall.statement]
    cases (c.send n (.ofQuery pattern)).1 <;> rfl

/-- The store is ready, and its database has these objections and the rows of the tables. -/
structure Backs (n : Nat) (objects : Statement → Option ServerError) (c : Cluster)
    (tables : Sql.Tables) : Prop where
  ready : c.Ready n
  objections : c.database.objection? = objects
  keeps : c.database.Keeps tables

variable {objects : Statement → Option ServerError}

theorem store_simulates_tables (n : Nat) (objects : Statement → Option ServerError) :
    Store.Simulates (Backs n objects) (store n) (Sql.store.refusing objects) := by
  rintro call c tables ⟨ready, objections, keeps⟩
  obtain ⟨id, d, alive, same, answer, database, later⟩ := ready.send call.statement
  have keeps : d.Keeps tables := keeps.of_sameContent same
  have objections : d.objection? = objects := same.objections.trans objections
  rw [Database.send_of_open alive (same.faults ready.faultless), objections] at answer database
  rw [store_eq, Store.refusing]
  cases objected : objects call.statement with
  | some error =>
    simp only [objected] at answer database ⊢
    have unchanged := Database.sameContent_enter d call.statement (.failed error.code)
    refine ⟨by rw [answer], later, ?_, ?_⟩ <;> rw [database]
    · exact unchanged.objections.trans objections
    · exact keeps.of_sameContent unchanged
  | none =>
    simp only [objected] at answer database ⊢
    obtain ⟨rows, left⟩ := keeps.execute id call
    have entered := Database.sameContent_enter (d.execute id call.statement).2 call.statement
      .succeeded
    have executed := d.sameService_execute id call.statement
    refine ⟨by rw [answer, rows]; rfl, later, ?_, ?_⟩ <;> rw [database]
    · exact (executed.trans entered.toSameService).objections.trans objections
    · exact left.of_sameContent entered

/-- The store behaves like the store in memory that refuses what the database refuses. -/
theorem store_simulates_memory (n : Nat) (objects : Statement → Option ServerError) :
    Store.Simulates (fun c r => ∃ tables, Backs n objects c tables ∧ Sql.Mirrors tables r)
      (store n) (Store.memory.refusing objects) :=
  (store_simulates_tables n objects).trans (Sql.store_simulates_memory.refusing objects)

/-! ### Sequences of calls -/

/-- A store that is opened on a database without faults, with nothing in its two tables, answers
every sequence of calls as that store in memory does, and the rows of the tables are at last its
facts. -/
theorem store_serves_refusing {settings : DatabaseSettings}
    (opened : (c.openStore settings).1 = .ok n) (faultless : c.database.faults = [])
    (bare : ∀ t, (c.database.rows t).toList = []) (calls : List StoreCall) :
    let served := (store n).serve calls (c.openStore settings).2
    let expected := (Store.memory.refusing c.database.objection?).serve calls .empty
    served.1 = expected.1 ∧ ∀ t row, row ∈ served.2.database.rows t ↔
      ∃ fact, expected.2.Holds fact ∧ fact.table = t ∧ fact.row = row := by
  intro served expected
  obtain ⟨ready, same⟩ := ready_of_openStore opened faultless
  have keeps : (c.openStore settings).2.database.Keeps .empty := by
    intro t row
    rw [same.rows, SortedBy.mem_iff, bare]
    rfl
  have mirrors : Sql.Mirrors .empty .empty := by
    intro t row
    simp [Sql.Tables.empty]
  obtain ⟨answers, tables, backs, last⟩ := (store_simulates_memory n c.database.objection?).serve
    calls ⟨_, ⟨ready, same.objections, keeps⟩, mirrors⟩
  refine ⟨answers, fun t row => ?_⟩
  rw [backs.keeps, last]

/-- A store in memory finds nothing twice. -/
theorem nodup_of_memory {calls : List StoreCall} {r : Relations} {facts : List Fact}
    (found : .found facts ∈ (Store.memory.serve calls r).1) : facts.Nodup := by
  induction calls generalizing r with
  | nil => cases found
  | cons call rest ih =>
    rw [Store.serve] at found
    rcases List.mem_cons.mp found with here | later
    · cases call with
      | write => cases here
      | query pattern =>
        cases here
        exact r.query_nodup pattern
    · exact ih later

/-- A store is opened on a database that has no faults and nothing in its two tables, and that
executes the statements of the calls. It answers the calls, one by one, as an empty store in memory
does: the queries find the same facts in the same order, none twice. The rows of the tables are at
last the facts of the other store. -/
theorem store_answers_eq {settings : DatabaseSettings}
    (opened : (c.openStore settings).1 = .ok n) (faultless : c.database.faults = [])
    (bare : ∀ t, (c.database.rows t).toList = []) (calls : List StoreCall)
    (executed : ∀ call ∈ calls, c.database.objection? call.statement = none) :
    let served := (store n).serve calls (c.openStore settings).2
    let expected := Store.memory.serve calls .empty
    served.1 = expected.1 ∧
    (∀ facts, .found facts ∈ served.1 → facts.Nodup) ∧
    ∀ t row, row ∈ served.2.database.rows t ↔
      ∃ fact, expected.2.Holds fact ∧ fact.table = t ∧ fact.row = row := by
  intro served expected
  obtain ⟨answers, rows⟩ := store_serves_refusing opened faultless bare calls
  rw [Store.serve_refusing executed] at answers rows
  refine ⟨answers, fun facts found => ?_, rows⟩
  rw [answers] at found
  exact nodup_of_memory found

/-- The socket of the default database. -/
def ownSettings : DatabaseSettings := { url := "postgres://%2Frun%2Fpostgresql" }

theorem openStore_ownSettings : (({} : Cluster).openStore ownSettings).1 = .ok 0 := by
  have opened : (({} : Cluster).openStore ownSettings).1.toOption = some 0 := by decide +kernel
  generalize (({} : Cluster).openStore ownSettings).1 = answer at opened ⊢
  cases answer with
  | ok number => exact congrArg Except.ok (Option.some.inj opened)
  | error cause => cases opened

def writeDocs : Grant := ⟨"editor", "docs", "doc", "write"⟩

def readDocs : Grant := ⟨"editor", "docs", "doc", "read"⟩

/-- The facts are found in their order. -/
theorem store_answers_eq_docs :
    ((store 0).serve [.write .insert (.grant writeDocs), .write .insert (.grant readDocs),
      .query (.grants { role := some "editor" }), .write .delete (.grant writeDocs),
      .query (.grants { action := some "write" })] (({} : Cluster).openStore ownSettings).2).1 =
    [.wrote, .wrote, .found [.grant readDocs, .grant writeDocs], .wrote, .found []] := by
  have bare (t : Table) : (({} : Cluster).database.rows t).toList = [] := by cases t <;> rfl
  rw [(store_answers_eq openStore_ownSettings rfl bare _ (by decide)).1]
  decide

end Cluster

end Entitlement
