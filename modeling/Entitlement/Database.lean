import Entitlement.Database.Failure
import Entitlement.Database.Statement
import Entitlement.Fault
import Entitlement.Relations
import Entitlement.Text.Part

/-!
# The database

The state of a database as its clients can see it: the rows of its tables, the open connections
with what they listen to, and the versions that its tables were set up with. Connections can be
refused or hung up, and faults can be armed on the texts of statements.
-/

namespace Entitlement

/-- The rows of a table, each once, in ascending order of their values. -/
abbrev Rows := SortedBy fun row : Row => row

/-! ### What is refused -/

def Database.hasNull (text : String) : Bool := text.toList.contains '\x00'

/-- What every database has against a statement, whatever its content. -/
def Statement.objection? (s : Statement) : Option ServerError :=
  match s with
  | .listen channel _ =>
    if (Statement.channelName channel).isEmpty then
      some ⟨"42601", "zero-length delimited identifier at or near \"\"\"\""⟩
    else none
  | _ =>
    if s.parameters.any fun parameter => (parameter.map Database.hasNull).getD false then
      some ⟨"22021", "invalid byte sequence for encoding \"UTF8\": 0x00"⟩
    else
      match s with
      | .notify "" _ => some ⟨"22023", "channel name cannot be empty"⟩
      | _ => none

/-! ### The state of a database -/

/-- A version that was applied to the tables, and the script that was run for it. -/
structure AppliedMigration where
  version : Nat
  description : String := ""
  success : Bool := true
  script : String := ""
deriving DecidableEq, Repr, Inhabited

structure Connection where
  id : Nat
  listening : List String := []
  -- The payloads of notifications that were not read yet, the oldest first.
  unread : List String := []
  -- In a transaction, the versions that count only after its end.
  transaction : Option (List AppliedMigration) := none
deriving DecidableEq, Repr, Inhabited

inductive Disturbance where
  | answer (error : ServerError)
  | hangUp
deriving DecidableEq, Repr, Inhabited

inductive StatementOutcome where
  | succeeded
  | failed (code : String)
  | hungUp
deriving DecidableEq, Repr, Inhabited

structure StatementRecord where
  statement : Statement
  outcome : StatementOutcome
deriving DecidableEq, Repr, Inhabited

structure Database where
  -- Where connections are accepted.
  address : DatabaseAddress := .socket "/run/postgresql/.s.PGSQL.5432"
  -- The files among which a client looks for other sockets.
  files : FileTree := {}
  grants : Rows := .empty
  assignments : Rows := .empty
  -- Ascending by version.
  migrations : List AppliedMigration := []
  -- The open ones, the oldest first.
  connections : List Connection := []
  nextConnection : Nat := 0
  -- What it has against a statement, whatever its content. Servers differ in how long a key, the
  -- name of a channel or a payload may be.
  objection? : Statement → Option ServerError := Statement.objection?
  -- New connections are refused with this error.
  refusal : Option ServerError := none
  -- Armed on the statements whose texts include the triggers.
  faults : List (Fault String Disturbance) := []
  -- The statements that came to an end, the newest first.
  log : List StatementRecord := []
deriving Inhabited

namespace Database

/-! ### Tables -/

def rows (t : Table) (d : Database) : Rows :=
  match t with
  | .grants => d.grants
  | .assignments => d.assignments

def setRows (t : Table) (rows : Rows) (d : Database) : Database :=
  match t with
  | .grants => { d with grants := rows }
  | .assignments => { d with assignments := rows }

@[simp] theorem rows_setRows (t u : Table) (rows : Rows) (d : Database) :
    (d.setRows t rows).rows u = if u = t then rows else d.rows u := by
  cases t <;> cases u <;> rfl

def seed (facts : List Fact) (d : Database) : Database :=
  facts.foldl (fun d fact => d.setRows fact.table ((d.rows fact.table).insert fact.row)) d

/-- Puts a version in its place. -/
def placeMigration (a : AppliedMigration) : List AppliedMigration → List AppliedMigration
  | [] => [a]
  | b :: rest =>
    if a.version < b.version then a :: b :: rest
    -- An earlier record of the same version is replaced.
    else if a.version = b.version then a :: rest
    else b :: placeMigration a rest

def setMigration (a : AppliedMigration) (d : Database) : Database :=
  { d with migrations := placeMigration a d.migrations }

def migration? (version : Nat) (d : Database) : Option AppliedMigration :=
  d.migrations.find? (·.version == version)

/-! ### Connections -/

def connection? (id : Nat) (d : Database) : Option Connection :=
  d.connections.find? (·.id == id)

def isOpen (id : Nat) (d : Database) : Bool := (d.connection? id).isSome

def modifyConnection (id : Nat) (f : Connection → Connection) (d : Database) : Database :=
  { d with connections := d.connections.map fun c => if c.id = id then f c else c }

/-- Codes of refusals that a client takes for passing: the database is full or still starting. -/
def passingRefusals : List String := ["53300", "57P03"]

/-- Opens a connection. There is no network. -/
def connect (address : DatabaseAddress) (d : Database) : Except DatabaseFailure Nat × Database :=
  if address ≠ d.address then
    match address with
    -- A file that does not answer is tried again until the client gives up.
    | .socket path =>
      (.error (((ConnectFault.ofPath? d.files path).map .unreachable).getD .timedOut), d)
    | .network host _ => (.error (.unreachable (.ofHost host)), d)
  else
    match d.refusal with
    -- So is a database whose refusal may pass.
    | some error =>
      (.error (if passingRefusals.contains error.code then .timedOut else .answered error), d)
    | none =>
      let id := d.nextConnection
      (.ok id, { d with connections := d.connections ++ [{ id }], nextConnection := id + 1 })

def disconnect (id : Nat) (d : Database) : Database :=
  -- A transaction that is still open leaves no trace.
  { d with connections := d.connections.filter (·.id ≠ id) }

def disconnectAll (ids : List Nat) (d : Database) : Database :=
  ids.foldl (fun d id => d.disconnect id) d

def listeners (d : Database) : List Connection :=
  d.connections.filter fun c => !c.listening.isEmpty

/-- Hands a notification to every connection that listens to exactly this channel. -/
def notify (channel payload : String) (d : Database) : Database :=
  { d with connections := d.connections.map fun c =>
      if c.listening.contains channel then { c with unread := c.unread ++ [payload] } else c }

def listenerCount (channel : String) (d : Database) : Nat :=
  (d.connections.filter fun c => c.listening.contains channel).length

def readNotifications (id : Nat) (d : Database) : List String × Database :=
  match d.connection? id with
  | none => ([], d)
  | some c => (c.unread, d.modifyConnection id fun c => { c with unread := [] })

/-! ### Statements -/

/-- Records a version, in a transaction if there is one. -/
def recordMigration (id : Nat) (a : AppliedMigration) (d : Database) : Database :=
  match (d.connection? id).bind (·.transaction) with
  | none => d.setMigration a
  | some waiting =>
    d.modifyConnection id fun c => { c with transaction := some (waiting ++ [a]) }

/-- Ends the transaction with all that waited for its end. -/
def commit (id : Nat) (d : Database) : Database :=
  let waiting := ((d.connection? id).bind (·.transaction)).getD []
  let d := d.modifyConnection id fun c => { c with transaction := none }
  waiting.foldl (fun d a => d.setMigration a) d

def keepBooks (id : Nat) (b : Bookkeeping) (d : Database) : Database :=
  match b with
  | .start => d.modifyConnection id fun c => { c with transaction := some [] }
  | .record m =>
    d.recordMigration id
      { version := m.version, description := m.description, script := m.script }
  | .commit => d.commit id
  | .rollback => d.modifyConnection id fun c => { c with transaction := none }
  | .databaseName | .lock | .createTable | .unfinished | .applied | .run _ | .duration _
  | .unlock => d

/-- What a statement that meets no objection does, and the rows that it answers with. -/
def execute (id : Nat) (s : Statement) (d : Database) : List Row × Database :=
  match s with
  | .insert t row => ([], d.setRows t ((d.rows t).insert row))
  | .delete t row => ([], d.setRows t ((d.rows t).erase row))
  | .select t wanted => ((d.rows t).toList.filter wanted.selects, d)
  | .probe => ([], d)
  | .notify channel payload => ([], d.notify channel payload)
  | .listen channel _ =>
    let name := Statement.channelName channel
    ([], d.modifyConnection id fun c => { c with listening := c.listening.insert name })
  | .unlisten => ([], d.modifyConnection id fun c => { c with listening := [] })
  | .bookkeeping b => ([], d.keepBooks id b)

def enter (s : Statement) (outcome : StatementOutcome) (d : Database) : Database :=
  if s.isLogged then { d with log := ⟨s, outcome⟩ :: d.log } else d

/-- Sends a statement over a connection. -/
def send (id : Nat) (s : Statement) (d : Database) : Except DatabaseFailure (List Row) × Database :=
  if !d.isOpen id then (.error .hungUp, d)
  else
    let (struck, faults) := Fault.strike (Text.includes s.text) d.faults
    let d := { d with faults }
    -- A fault strikes before the database looks at the statement.
    match struck with
    | some .hangUp => (.error .hungUp, (d.disconnect id).enter s .hungUp)
    | some (.answer error) => (.error (.answered error), d.enter s (.failed error.code))
    | none =>
      match d.objection? s with
      | some error => (.error (.answered error), d.enter s (.failed error.code))
      | none =>
        let (rows, d) := d.execute id s
        (.ok rows, d.enter s .succeeded)

end Database

end Entitlement
