import Entitlement.Fact

/-!
# Statements

What is asked of the database: reading and writing the tables of the two relations, sending and
awaiting notifications, and setting the tables up. Every statement has a text, in which numbered
places stand for its parameters.
-/

namespace Entitlement

/-! ### Tables -/

inductive Table where
  | grants
  | assignments
deriving DecidableEq, Repr, Inhabited

namespace Table

def name : Table → String
  | grants => "rbac_grants"
  | assignments => "rbac_assignments"

def columns : Table → List String
  | grants => ["role", "domain", "object", "action"]
  | assignments => ["user_id", "role", "domain"]

end Table

abbrev Row := List String

/-- The values that the rows asked for have; an absent one leaves its column open. -/
abbrev RowPattern := List (Option String)

namespace Fact

def table : Fact → Table
  | grant _ => .grants
  | assignment _ => .assignments

def row : Fact → Row
  | grant g => g.key
  | assignment a => a.key

def ofRow? : Table → Row → Option Fact
  | .grants, [role, domain, object, action] => some (.grant ⟨role, domain, object, action⟩)
  | .assignments, [user, role, domain] => some (.assignment ⟨user, role, domain⟩)
  | _, _ => none

@[simp] theorem ofRow?_row (fact : Fact) : ofRow? fact.table fact.row = some fact := by
  cases fact <;> rfl

end Fact

namespace FactPattern

def table : FactPattern → Table
  | grants _ => .grants
  | assignments _ => .assignments

def row : FactPattern → RowPattern
  | grants p => [p.role, p.domain, p.object, p.action]
  | assignments p => [p.user, p.role, p.domain]

end FactPattern

def RowPattern.selects : RowPattern → Row → Bool
  | wanted :: others, value :: values => agrees wanted value && selects others values
  | [], [] => true
  | _, _ => false

theorem FactPattern.selects_row (pattern : FactPattern) (fact : Fact) :
    (pattern.table = fact.table ∧ pattern.row.selects fact.row = true) ↔
      pattern.selects fact = true := by
  cases pattern <;> cases fact <;>
    simp [FactPattern.table, Fact.table, FactPattern.row, Fact.row, FactPattern.selects,
      GrantPattern.selects, AssignmentPattern.selects, Grant.key, Assignment.key,
      RowPattern.selects, and_assoc]

/-! ### Setting the tables up -/

/-- A change of the tables, under a version that grows from one to the next. -/
structure Migration where
  version : Nat
  description : String
  script : String
deriving DecidableEq, Repr, Inhabited

def Migration.relations : Migration where
  version := 20260101000000
  description := "rbac relations"
  script :=
    "-- Role grants: (role, domain, object, action). Looked up by role.\n" ++
    "CREATE TABLE IF NOT EXISTS rbac_grants (\n" ++
    "    role TEXT NOT NULL,\n" ++
    "    domain TEXT NOT NULL,\n" ++
    "    object TEXT NOT NULL,\n" ++
    "    action TEXT NOT NULL,\n" ++
    "    created_at TIMESTAMPTZ NOT NULL DEFAULT now(),\n" ++
    "    PRIMARY KEY (role, domain, object, action)\n" ++
    ");\n\n" ++
    "-- Role assignments: (user, role, domain). Looked up by user or by role.\n" ++
    "CREATE TABLE IF NOT EXISTS rbac_assignments (\n" ++
    "    user_id TEXT NOT NULL,\n" ++
    "    role TEXT NOT NULL,\n" ++
    "    domain TEXT NOT NULL,\n" ++
    "    created_at TIMESTAMPTZ NOT NULL DEFAULT now(),\n" ++
    "    PRIMARY KEY (user_id, role, domain)\n" ++
    ");\n\n" ++
    "CREATE INDEX IF NOT EXISTS rbac_assignments_role_domain_idx\n" ++
    "    ON rbac_assignments (role, domain);\n"

inductive Bookkeeping where
  | databaseName
  | lock
  | createTable
  | unfinished
  | applied
  | start
  | run (m : Migration)
  | record (m : Migration)
  | commit
  | rollback
  | duration (version : Nat)
  | unlock
deriving DecidableEq, Repr, Inhabited

def Bookkeeping.text : Bookkeeping → String
  | databaseName => "SELECT current_database()"
  | lock => "SELECT pg_advisory_lock($1)"
  | createTable =>
    "\nCREATE TABLE IF NOT EXISTS _sqlx_migrations (\n    version BIGINT PRIMARY KEY,\n" ++
    "    description TEXT NOT NULL,\n    installed_on TIMESTAMPTZ NOT NULL DEFAULT now(),\n" ++
    "    success BOOLEAN NOT NULL,\n    checksum BYTEA NOT NULL,\n" ++
    "    execution_time BIGINT NOT NULL\n);\n                "
  | unfinished =>
    "SELECT version FROM _sqlx_migrations WHERE success = false ORDER BY version LIMIT 1"
  | applied => "SELECT version, checksum FROM _sqlx_migrations ORDER BY version"
  | start => "BEGIN"
  | run m => m.script
  | record _ =>
    "\n    INSERT INTO _sqlx_migrations ( version, description, success, checksum, " ++
    "execution_time )\n    VALUES ( $1, $2, TRUE, $3, -1 )\n                "
  | commit => "COMMIT"
  | rollback => "ROLLBACK"
  | duration _ =>
    "\n    UPDATE _sqlx_migrations\n    SET execution_time = $1\n    WHERE version = $2\n" ++
    "                "
  | unlock => "SELECT pg_advisory_unlock($1)"

/-! ### Statements -/

inductive Statement where
  | insert (table : Table) (row : Row)
  | delete (table : Table) (row : Row)
  | select (table : Table) (wanted : RowPattern)
  | probe
  | notify (channel payload : String)
  -- Notifications of the channel are wanted; on a new connection for an old one, once again.
  | listen (channel : String) (again : Bool)
  | unlisten
  | bookkeeping (b : Bookkeeping)
deriving DecidableEq, Repr, Inhabited

namespace Statement

def ofWrite (change : Change) (fact : Fact) : Statement :=
  match change with
  | .insert => insert fact.table fact.row
  | .delete => delete fact.table fact.row

def ofQuery (pattern : FactPattern) : Statement := select pattern.table pattern.row

/-- The place of a parameter, counted from one. -/
def place (i : Nat) : String := "$" ++ toString (i + 1)

/-- A condition for each column, all of them required. -/
def conditions (columns : List String) (condition : String → String → String) : String :=
  " AND ".intercalate (columns.mapIdx fun i column => condition column (place i))

def commas (texts : List String) : String := ", ".intercalate texts

/-- A channel as a quoted name, which a null character would end. -/
def channelName (channel : String) : String :=
  String.ofList (channel.toList.takeWhile (· ≠ '\x00'))

def quoted (name : String) : String := "\"" ++ name.replace "\"" "\"\"" ++ "\""

def text : Statement → String
  | insert t _ =>
    "INSERT INTO " ++ t.name ++ " (" ++ commas t.columns ++ ") VALUES (" ++
      commas (t.columns.mapIdx fun i _ => place i) ++ ") ON CONFLICT DO NOTHING"
  | delete t _ =>
    "DELETE FROM " ++ t.name ++ " WHERE " ++
      conditions t.columns fun column value => column ++ " = " ++ value
  | select t _ =>
    "SELECT " ++ commas t.columns ++ " FROM " ++ t.name ++ " WHERE " ++
      (conditions t.columns fun column value =>
        "(" ++ value ++ "::text IS NULL OR " ++ column ++ " = " ++ value ++ ")") ++
      " ORDER BY " ++ commas t.columns
  | probe => "SELECT 1"
  | notify .. => "SELECT pg_notify($1, $2)"
  | listen channel again =>
    "LISTEN " ++ quoted (channelName channel) ++ if again then ";" else ""
  | unlisten => "UNLISTEN *"
  | bookkeeping b => b.text

def parameters : Statement → List (Option String)
  | insert _ row | delete _ row => row.map some
  | select _ wanted => wanted
  | notify channel payload => [some channel, some payload]
  | probe | listen .. | unlisten | bookkeeping _ => []

/-- A log leaves out what only keeps the books. -/
def isLogged : Statement → Bool
  | unlisten => false
  | bookkeeping (.run _) => true
  | bookkeeping _ => false
  | _ => true

end Statement

end Entitlement
