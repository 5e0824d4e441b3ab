import Entitlement.Database

/-!
# Setting up the tables

Brings the tables of a database to the version that the program knows. The work is done under a lock
of the database. A version counts only when its script and its record went through together, so an
attempt that fails can be repeated.
-/

namespace Entitlement

/-- Work on the versions of a database. A failure ends it and keeps what was done until then. -/
abbrev Setup := ExceptT MigrationFailure (StateM Database)

namespace Setup

def send (connection : Nat) (b : Bookkeeping) : Setup (Except DatabaseFailure (List Row)) :=
  modifyGet (Database.send connection (.bookkeeping b))

def keep (connection : Nat) (b : Bookkeeping) : Setup Unit := do
  match ← send connection b with
  | .ok _ => return
  | .error cause => throw (.bookkeeping cause)

def runScript (connection : Nat) (m : Migration) : Setup Unit := do
  match ← send connection (.run m) with
  | .ok _ => return
  | .error cause => throw (.script m.version cause)

/-- Runs the script of a version and records the version, both or neither. -/
def apply (connection : Nat) (m : Migration) : Setup Unit := do
  keep connection .start
  try
    runScript connection m
    keep connection (.record m)
    keep connection .commit
  catch failure =>
    let _ ← send connection .rollback
    throw failure
  keep connection (.duration m.version)

def checkFinished (connection : Nat) : Setup Unit := do
  keep connection .unfinished
  match (← get).migrations.find? (!·.success) with
  | some a => throw (.unfinished a.version)
  | none => return

/-- The database has no version but the known one. -/
def checkKnown (connection : Nat) (m : Migration) : Setup Unit := do
  keep connection .applied
  match (← get).migrations.find? (·.version ≠ m.version) with
  | some a => throw (.unknown a.version)
  | none => return

/-- Applies the version unless it was applied before, by the same script. -/
def ensure (connection : Nat) (m : Migration) : Setup Unit := do
  match (← get).migration? m.version with
  | none => apply connection m
  | some a => if a.script ≠ m.script then throw (.modified m.version)

def all (connection : Nat) (m : Migration) : Setup Unit := do
  keep connection .databaseName
  keep connection .lock
  keep connection .createTable
  checkFinished connection
  checkKnown connection m
  ensure connection m
  keep connection .databaseName
  keep connection .unlock

end Setup

def Database.setUp (connection : Nat) (d : Database) : Except MigrationFailure Unit × Database :=
  (Setup.all connection .relations).run.run d

end Entitlement
