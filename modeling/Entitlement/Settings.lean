import Entitlement.FileTree
import Entitlement.SocketAddress
import Entitlement.Text.Blank

/-!
# Settings

What a daemon is set up with, and how settings are read from an environment. Overrides replace
single settings. The first thing that cannot be read ends the reading; the failure tells where it
was read from and what is wrong with it.
-/

namespace Entitlement

inductive Storage where
  | memory
  | database
deriving DecidableEq, Repr, Inhabited

/-- How replicas tell each other of changes: within one process, or through the database. -/
inductive Signalling where
  | broadcast
  | database
deriving DecidableEq, Repr, Inhabited

structure DatabaseSettings where
  url : String
  maxConnections : Nat := 10
  -- In milliseconds.
  acquireTimeout : Nat := 5000
deriving DecidableEq, Repr, Inhabited

structure Settings where
  metricsBind : SocketAddress := .v4 [0, 0, 0, 0] 9090
  storage : Storage := .memory
  signalling : Signalling := .broadcast
  database : Option DatabaseSettings := none
  channel : String := "tollgate_policy_changed"
  defaultDomain : String := "default"
  adminRole : String := "admin"
deriving DecidableEq, Repr, Inhabited

inductive SettingFault where
  | address
  | storage (name : String)
  | signalling (name : String)
  | digit
  | noDigits
  | tooLarge
  -- The settings file cannot be read.
  | file (fault : FileFault)
  -- The settings file is no mapping of the known settings.
  | unreadable
deriving DecidableEq, Repr, Inhabited

def SettingFault.message : SettingFault → String
  | address => "invalid socket address syntax"
  | storage name => "unknown storage backend: " ++ name
  | signalling name => "unknown notifier backend: " ++ name
  | digit => "invalid digit found in string"
  | noDigits => "cannot parse integer from empty string"
  | tooLarge => "number too large to fit in target type"
  | file fault => fault.message
  | unreadable => ""

/-- A fault, and what was being done when it was found. -/
structure SettingFailure where
  doing : String
  fault : SettingFault
deriving DecidableEq, Repr, Inhabited

/-- What was being done, and then what went wrong; of an unreadable file no more is told. -/
def SettingFailure.chain (f : SettingFailure) : List String :=
  if f.fault = .unreadable then [f.doing] else [f.doing, f.fault.message]

namespace Settings

/-! ### Single settings -/

def readAddress (text : String) : Except SettingFault SocketAddress :=
  match SocketAddress.ofText? text with
  | some address => .ok address
  | none => .error .address

/-- Names are read without regard to case and to white space around them. -/
def readStorage (text : String) : Except SettingFault Storage :=
  let name := Text.lowerAscii (Text.trim text)
  if name = "memory" then .ok .memory
  else if name = "postgres" ∨ name = "pg" then .ok .database
  else .error (.storage name)

def readSignalling (text : String) : Except SettingFault Signalling :=
  let name := Text.lowerAscii (Text.trim text)
  if name = "local" then .ok .broadcast
  else if name = "postgres" ∨ name = "pg" then .ok .database
  else .error (.signalling name)

/-- Digits from left to right; the first one that is none or leads beyond `largest` is the fault. -/
def readDigits (largest : Nat) : Nat → List Char → Except SettingFault Nat
  | n, [] => .ok n
  | n, c :: rest =>
    if !c.isDigit then .error .digit
    else
      let n := Nat.ofDigitChars 10 [c] n
      if largest < n then .error .tooLarge else readDigits largest n rest

/-- Decimal digits, with a plus in front if any. -/
def readCount (largest : Nat) (text : String) : Except SettingFault Nat :=
  match text.toList with
  | [] => .error .noDigits
  | ['+'] => .error .digit
  | '+' :: rest => readDigits largest 0 rest
  | digits => readDigits largest 0 digits

def largestConnections : Nat := 0xFFFFFFFF

def largestTimeout : Nat := 0xFFFFFFFFFFFFFFFF

/-! ### The environment -/

/-- The values of the variables. One whose value is no Unicode text counts as absent. -/
abbrev Environment := String → Option String

def readVariable {α : Type} (env : Environment) (name : String)
    (read : String → Except SettingFault α) (default : α) : Except SettingFailure α :=
  match env name with
  | none => .ok default
  | some text => (read text).mapError fun fault => ⟨"parse " ++ name, fault⟩

/-- The settings of the database matter only when there is an address for it. -/
def readDatabase (env : Environment) : Except SettingFailure (Option DatabaseSettings) := do
  match env "TOLLGATE_POSTGRES_URL" with
  | none => return none
  | some url =>
    let base : DatabaseSettings := { url }
    let maxConnections ← readVariable env "TOLLGATE_POSTGRES_MAX_CONNECTIONS"
      (readCount largestConnections) base.maxConnections
    let acquireTimeout ← readVariable env "TOLLGATE_POSTGRES_ACQUIRE_TIMEOUT_MS"
      (readCount largestTimeout) base.acquireTimeout
    return some { url, maxConnections, acquireTimeout }

def ofEnvironment (env : Environment) : Except SettingFailure Settings := do
  let base : Settings := {}
  let metricsBind ← readVariable env "TOLLGATE_METRICS_BIND" readAddress base.metricsBind
  let storage ← readVariable env "TOLLGATE_STORAGE" readStorage base.storage
  let signalling ← readVariable env "TOLLGATE_NOTIFIER" readSignalling base.signalling
  let database ← readDatabase env
  return { metricsBind, storage, signalling, database,
           channel := (env "TOLLGATE_NOTIFY_CHANNEL").getD base.channel,
           defaultDomain := (env "TOLLGATE_DEFAULT_DOMAIN").getD base.defaultDomain,
           adminRole := (env "TOLLGATE_ADMIN_ROLE").getD base.adminRole }

end Settings

/-! ### Overrides -/

/-- Settings given in a file. Addresses and names are still texts. -/
structure Overrides where
  metricsBind : Option String := none
  storage : Option String := none
  url : Option String := none
  maxConnections : Option Nat := none
  acquireTimeout : Option Nat := none
  signalling : Option String := none
  channel : Option String := none
  defaultDomain : Option String := none
  adminRole : Option String := none
deriving DecidableEq, Repr, Inhabited

namespace Overrides

def readSetting {α : Type} (name : String) (text : Option String)
    (read : String → Except SettingFault α) (setting : α) : Except SettingFailure α :=
  match text with
  | none => .ok setting
  | some text => (read text).mapError fun fault => ⟨"parse " ++ name, fault⟩

/-- An address begins the settings of a database; the others count only if there are some. -/
def database (o : Overrides) (current : Option DatabaseSettings) : Option DatabaseSettings :=
  let addressed := match o.url, current with
    | none, current => current
    | some url, none => some { url }
    | some url, some d => some { d with url }
  addressed.map fun d =>
    { d with maxConnections := o.maxConnections.getD d.maxConnections,
             acquireTimeout := o.acquireTimeout.getD d.acquireTimeout }

def apply (o : Overrides) (s : Settings) : Except SettingFailure Settings := do
  let metricsBind ← readSetting "metrics_bind" o.metricsBind Settings.readAddress s.metricsBind
  let storage ← readSetting "storage" o.storage Settings.readStorage s.storage
  let signalling ← readSetting "notifier" o.signalling Settings.readSignalling s.signalling
  return { metricsBind, storage, signalling, database := o.database s.database,
           channel := o.channel.getD s.channel,
           defaultDomain := o.defaultDomain.getD s.defaultDomain,
           adminRole := o.adminRole.getD s.adminRole }

end Overrides

end Entitlement
