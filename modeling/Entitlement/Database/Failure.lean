import Entitlement.Database.Address
import Entitlement.Failure

/-!
# Failures of the database

What can go wrong between a program and its database, by cause, and what that means for the store
and for the channel.
-/

namespace Entitlement

structure ServerError where
  code : String
  message : String
deriving DecidableEq, Repr, Inhabited

inductive ConnectFault where
  -- There is no socket under the path.
  | file (fault : FileFault)
  | interiorNull
  | tooLong
  -- The host has an address, but no network leads there.
  | noNetwork
  -- There is no address of one's own to come from.
  | noOwnAddress
  -- The address holds for every network, and none is given.
  | everyNetwork
  -- Nobody can be asked for the address of a host.
  | nobodyToAsk
  -- The host has no name.
  | noName
deriving DecidableEq, Repr, Inhabited

namespace ConnectFault

def message : ConnectFault → String
  | file fault => fault.message
  | interiorNull => "paths must not contain interior null bytes"
  | tooLong => "path must be shorter than SUN_LEN"
  | noNetwork => "Network is unreachable (os error 101)"
  | noOwnAddress => "Cannot assign requested address (os error 99)"
  | everyNetwork => "Invalid argument (os error 22)"
  | nobodyToAsk => "failed to lookup address information: Temporary failure in name resolution"
  | noName => "failed to lookup address information: Name or service not known"

/-- How many octets the path of a socket may have. -/
def largestPath : Nat := 107

def ofPath? (files : FileTree) (path : String) : Option ConnectFault :=
  if path.toList.contains '\x00' then some .interiorNull
  else if largestPath < path.utf8ByteSize then some .tooLong
  else
    match files.locate path with
    | .error fault => some (.file fault)
    | .ok _ => none

def ofGroups : List Nat → ConnectFault
  | [0, 0, 0, 0, 0, 0xFFFF, _, _] => noNetwork
  | first :: _ => if 0xFE80 ≤ first && first < 0xFEC0 then everyNetwork else noOwnAddress
  | [] => noOwnAddress

/-- What is the matter with a host while there is no network. -/
def ofHost (host : String) : ConnectFault :=
  let name := host.toList.filter fun c => !(c == '[' || c == ']')
  match SocketAddress.eightGroups name with
  | some (groups, []) => ofGroups groups
  | _ =>
    if name.isEmpty then noName
    else if Text.lowerAscii host = "localhost" || Url.isFourNumbers name then noNetwork
    else nobodyToAsk

end ConnectFault

inductive DatabaseFailure where
  | answered (error : ServerError)
  -- The connection ended before there was an answer.
  | hungUp
  | unreachable (fault : ConnectFault)
  -- No connection came free in time.
  | timedOut
  | poolClosed
  -- There is no address to connect to.
  | address (fault : AddressFault)
  -- There may be no connection at all.
  | noCapacity
deriving DecidableEq, Repr, Inhabited

namespace DatabaseFailure

def message : DatabaseFailure → String
  | answered error => "error returned from database: " ++ error.message
  | hungUp =>
    "error communicating with database: expected to read 5 bytes, got 0 bytes at EOF"
  | unreachable fault => "error communicating with database: " ++ fault.message
  | timedOut => "pool timed out while waiting for an open connection"
  | poolClosed => "attempted to acquire a connection on a closed pool"
  | address fault => "error with configuration: " ++ fault.message
  | noCapacity => "capacity must be non-zero"

def causes : DatabaseFailure → List String
  | answered error => [error.message]
  | hungUp => ["expected to read 5 bytes, got 0 bytes at EOF"]
  | unreachable fault => [fault.message]
  | timedOut | poolClosed | noCapacity => []
  | address fault => fault.chain

/-- The code of a row that is there already. -/
def duplicateCode : String := "23505"

/-- Time may heal a lost connection or a full pool; the rest is decided by the database. -/
def toStoreFailure (f : DatabaseFailure) : StoreFailure :=
  match f with
  | hungUp | unreachable _ | timedOut | poolClosed => .unavailable f.message
  | answered error =>
    if error.code = duplicateCode then .conflict f.message else .unexpected f.message
  | address _ | noCapacity => .unexpected f.message

def toSignalFailure (f : DatabaseFailure) : SignalFailure := .transport f.message

end DatabaseFailure

inductive MigrationFailure where
  -- An earlier attempt got stuck in this version.
  | unfinished (version : Nat)
  -- The database has a version that the program does not know.
  | unknown (version : Nat)
  -- The database was set up by another script of the same version.
  | modified (version : Nat)
  | script (version : Nat) (cause : DatabaseFailure)
  | bookkeeping (cause : DatabaseFailure)
deriving DecidableEq, Repr, Inhabited

namespace MigrationFailure

def message : MigrationFailure → String
  | unfinished version =>
    "migration " ++ toString version ++
      " is partially applied; fix and remove row from \x60_sqlx_migrations\x60 table"
  | unknown version =>
    "migration " ++ toString version ++
      " was previously applied but is missing in the resolved migrations"
  | modified version =>
    "migration " ++ toString version ++ " was previously applied but has been modified"
  | script version cause =>
    "while executing migration " ++ toString version ++ ": " ++ cause.message
  | bookkeeping cause => "while executing migrations: " ++ cause.message

def causes : MigrationFailure → List String
  | unfinished _ | unknown _ | modified _ => []
  | script _ cause | bookkeeping cause => cause.message :: cause.causes

def toStoreFailure (f : MigrationFailure) : StoreFailure := .unexpected f.message

end MigrationFailure

end Entitlement
