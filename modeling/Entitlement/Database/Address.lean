import Entitlement.Event
import Entitlement.Settings
import Entitlement.Text.Quoted
import Entitlement.Url

/-!
# Where a database is reached

The address of a database, read from a URL: a socket in the file system when the host of the URL is
an escaped path, a host in a network otherwise. Parameters of the query override the parts in front
of it, save that a socket, once given, counts more than any host. Unknown parameters are passed over
with a warning.
-/

namespace Entitlement

inductive DatabaseAddress where
  | socket (path : String)
  | network (host : String) (port : Nat)
deriving DecidableEq, Repr, Inhabited

inductive AddressFault where
  | url (fault : UrlFault)
  -- What the escapes stand for is no text.
  | encoding (fault : Text.Utf8Fault)
  -- A parameter that has to be a number is none.
  | number (fault : SettingFault)
  | hostAddress
  | sslMode (name : String)
deriving DecidableEq, Repr, Inhabited

namespace AddressFault

def chain : AddressFault → List String
  | url fault => [fault.message]
  | encoding fault => [fault.message]
  | number fault => [fault.message]
  | hostAddress => ["invalid IP address syntax"]
  | sslMode name =>
    let unknown := "unknown value " ++ Text.quoted name ++ " for \x60ssl_mode\x60"
    ["error with configuration: " ++ unknown, unknown]

def message (f : AddressFault) : String := f.chain.headD ""

end AddressFault

namespace DatabaseAddress

abbrev Reading := ExceptT AddressFault (StateM (List Event))

def tell (e : Event) : Reading Unit := modify (· ++ [e])

/-- What is known of an address before all parameters are read. -/
structure Draft where
  host : String := "localhost"
  -- The directory of a socket.
  directory : Option String := none
  port : Nat := 5432
  hasPassword : Bool := false
deriving DecidableEq, Repr, Inhabited

def readPart (escaped : List Char) : Reading String :=
  ExceptT.mk (pure ((Text.ofUtf8 (Text.escapedBytes escaped)).mapError .encoding))

/-- A host that is a path leads to a directory. -/
def Draft.ofHost (host : List Char) : Reading Draft := do
  if host.isEmpty then return {}
  else if (Text.escapedBytes host).head? = some '/'.toUInt8 then
    return { directory := some (← readPart host) }
  else return { host := String.ofList host }

/-- The parts in front of the query, all of which have to be texts. -/
def Draft.ofUrl (u : Url) : Reading Draft := do
  let d ← Draft.ofHost u.host
  let _ ← readPart u.user
  let _ ← readPart (u.password.getD [])
  let _ ← readPart (u.path.dropWhile (· = '/'))
  return { d with port := u.port.getD d.port, hasPassword := u.password.isSome }

def sslModes : List String :=
  ["disable", "allow", "prefer", "require", "verify-ca", "verify-full"]

def otherParameters : List String :=
  ["sslrootcert", "ssl-root-cert", "ssl-ca", "sslcert", "ssl-cert", "sslkey", "ssl-key", "dbname",
   "user", "application_name", "options"]

def isHostAddress (text : String) : Bool :=
  match SocketAddress.octets text.toList, SocketAddress.eightGroups text.toList with
  | some (_, []), _ => true
  | _, some (_, []) => true
  | _, _ => false

def readNumber (largest : Nat) (value : String) : Reading Nat :=
  ExceptT.mk (pure ((Settings.readCount largest value).mapError .number))

def Draft.take (d : Draft) : String × String → Reading Draft
  | ("host", value) =>
    return if value.startsWith "/" then { d with directory := some value }
      else { d with host := value }
  | ("hostaddr", value) =>
    if isHostAddress value then return { d with host := value } else throw .hostAddress
  | ("port", value) => return { d with port := ← readNumber 0xFFFF value }
  | ("password", _) => return { d with hasPassword := true }
  | ("statement-cache-capacity", value) => do
    let _ ← readNumber 0xFFFFFFFFFFFFFFFF value
    return d
  | (name, value) => do
    if name = "sslmode" ∨ name = "ssl-mode" then
      if !sslModes.contains (Text.lowerAscii value) then throw (.sslMode value)
    else if !(otherParameters.contains name || name.startsWith "options[") then
      tell (.parameterIgnored name value)
    return d

/-- The name of a socket ends with the port. -/
def Draft.address (d : Draft) : DatabaseAddress :=
  match d.directory with
  | some directory => .socket (directory ++ "/.s.PGSQL." ++ toString d.port)
  | none => .network d.host d.port

/-- Where a password is looked for that the URL does not give. -/
def passwordFile : String := "/root/.pgpass"

def read (text : String) : Reading DatabaseAddress := do
  let u ← ExceptT.mk (pure ((Url.ofText text).mapError .url))
  let d ← u.parameters.foldlM Draft.take (← Draft.ofUrl u)
  if !d.hasPassword then tell (.passwordFileMissing passwordFile)
  return d.address

def ofUrl (text : String) : Except AddressFault DatabaseAddress × List Event :=
  (read text).run.run []

end DatabaseAddress

end Entitlement
