import Entitlement.Settings.File
import Mathlib.Data.List.Basic

/-!
# Layers of settings

A setting can be given in the file, in the environment, or in neither. The file goes before the
environment, and the environment before the value that is used otherwise. This holds of every
setting but two: how many connections the database may have and how long they are waited for are
looked for in the environment only if the address of the database is there too, although the file
can give the address.
-/

namespace Entitlement

namespace Settings

variable {α : Type} {env : Environment} {files : Files} {s base : Settings} {o : Overrides}
  {name : String} {read : String → Except SettingFault α} {usual setting value : α}

/-- What comes second is done with what the first returned. -/
theorem exists_of_bind_eq_ok {ε α β : Type} {first : Except ε α} {next : α → Except ε β}
    {result : β} (returned : first >>= next = .ok result) :
    ∃ value, first = .ok value ∧ next value = .ok result := by
  cases first with
  | error cause => cases returned
  | ok value => exact ⟨value, rfl, returned⟩

/-- What the topmost layer comes to that gives something to be read, or else the usual value. -/
def layered (file environment : Option (Except SettingFault α)) (usual : α) :
    Except SettingFault α :=
  (file.or environment).getD (.ok usual)

theorem ok_of_mapError {ε τ : Type} {wrap : ε → τ} {answer : Except ε α}
    (returned : answer.mapError wrap = .ok value) : answer = .ok value := by
  cases answer with
  | ok found => exact congrArg _ (Except.ok.inj returned)
  | error cause => cases returned

theorem layered_of_readVariable (returned : readVariable env name read usual = .ok value) :
    layered none ((env name).map read) usual = .ok value := by
  unfold readVariable at returned
  cases given : env name with
  | none =>
    rw [given] at returned
    exact congrArg _ (Except.ok.inj returned)
  | some text =>
    rw [given] at returned
    exact ok_of_mapError returned

/-- An override lies above the variable and the usual value. -/
theorem layered_of_readSetting {text : Option String} {environment : Option (Except SettingFault α)}
    (below : layered none environment usual = .ok setting)
    (returned : Overrides.readSetting name text read setting = .ok value) :
    layered (text.map read) environment usual = .ok value := by
  unfold Overrides.readSetting at returned
  cases text with
  | none =>
    rw [← Except.ok.inj returned]
    exact below
  | some text => exact ok_of_mapError returned

/-! ### The settings that are looked for in every layer -/

/-- All these settings are those of the topmost layer that gives them. -/
structure Layered (env : Environment) (o : Overrides) (s : Settings) : Prop where
  metricsBind : layered (o.metricsBind.map readAddress)
    ((env "TOLLGATE_METRICS_BIND").map readAddress) (.v4 [0, 0, 0, 0] 9090) = .ok s.metricsBind
  storage : layered (o.storage.map readStorage) ((env "TOLLGATE_STORAGE").map readStorage)
    .memory = .ok s.storage
  signalling : layered (o.signalling.map readSignalling)
    ((env "TOLLGATE_NOTIFIER").map readSignalling) .broadcast = .ok s.signalling
  channel : s.channel =
    (o.channel.or (env "TOLLGATE_NOTIFY_CHANNEL")).getD "tollgate_policy_changed"
  defaultDomain : s.defaultDomain =
    (o.defaultDomain.or (env "TOLLGATE_DEFAULT_DOMAIN")).getD "default"
  adminRole : s.adminRole = (o.adminRole.or (env "TOLLGATE_ADMIN_ROLE")).getD "admin"
  -- Without an address there are no settings of a database.
  url : s.database.map (·.url) = o.url.or (env "TOLLGATE_POSTGRES_URL")

/-- The settings of the database as the environment gives them. -/
theorem readDatabase_spec {database : Option DatabaseSettings}
    (returned : readDatabase env = .ok database) :
    match env "TOLLGATE_POSTGRES_URL" with
    | none => database = none
    | some url => ∃ d, database = some d ∧ d.url = url ∧
      layered none ((env "TOLLGATE_POSTGRES_MAX_CONNECTIONS").map (readCount largestConnections))
        10 = .ok d.maxConnections ∧
      layered none ((env "TOLLGATE_POSTGRES_ACQUIRE_TIMEOUT_MS").map (readCount largestTimeout))
        5000 = .ok d.acquireTimeout := by
  unfold readDatabase at returned
  cases address : env "TOLLGATE_POSTGRES_URL" with
  | none =>
    rw [address] at returned
    exact (Except.ok.inj returned).symm
  | some url =>
    rw [address] at returned
    obtain ⟨maxConnections, counted, returned⟩ := exists_of_bind_eq_ok returned
    obtain ⟨acquireTimeout, timed, returned⟩ := exists_of_bind_eq_ok returned
    refine ⟨_, (Except.ok.inj returned).symm, rfl, ?_, ?_⟩
    · exact layered_of_readVariable counted
    · exact layered_of_readVariable timed

theorem layered_ofEnvironment (returned : ofEnvironment env = .ok s) :
    Layered env {} s ∧ readDatabase env = .ok s.database := by
  obtain ⟨metricsBind, bound, returned⟩ := exists_of_bind_eq_ok returned
  obtain ⟨storage, stored, returned⟩ := exists_of_bind_eq_ok returned
  obtain ⟨signalling, signalled, returned⟩ := exists_of_bind_eq_ok returned
  obtain ⟨database, addressed, returned⟩ := exists_of_bind_eq_ok returned
  cases returned
  refine ⟨?_, addressed⟩
  constructor
  case metricsBind => exact layered_of_readVariable bound
  case storage => exact layered_of_readVariable stored
  case signalling => exact layered_of_readVariable signalled
  case channel => rfl
  case defaultDomain => rfl
  case adminRole => rfl
  case url =>
    have spec := readDatabase_spec addressed
    cases address : env "TOLLGATE_POSTGRES_URL" with
    | none =>
      rw [address] at spec
      rw [spec]
      rfl
    | some url =>
      rw [address] at spec
      obtain ⟨d, rfl, same, -⟩ := spec
      exact congrArg some same

theorem url_database (o : Overrides) (current : Option DatabaseSettings) :
    (o.database current).map (·.url) = o.url.or (current.map (·.url)) := by
  cases given : o.url <;> cases current <;> simp [Overrides.database, given]

theorem Layered.apply (below : Layered env {} base) (applied : o.apply base = .ok s) :
    Layered env o s ∧ s.database = o.database base.database := by
  obtain ⟨metricsBind, bound, applied⟩ := exists_of_bind_eq_ok applied
  obtain ⟨storage, stored, applied⟩ := exists_of_bind_eq_ok applied
  obtain ⟨signalling, signalled, applied⟩ := exists_of_bind_eq_ok applied
  cases applied
  refine ⟨?_, rfl⟩
  constructor
  case metricsBind => exact layered_of_readSetting below.metricsBind bound
  case storage => exact layered_of_readSetting below.storage stored
  case signalling => exact layered_of_readSetting below.signalling signalled
  case channel => rw [Option.getD_or, below.channel, Option.none_or]
  case defaultDomain => rw [Option.getD_or, below.defaultDomain, Option.none_or]
  case adminRole => rw [Option.getD_or, below.adminRole, Option.none_or]
  case url => rw [url_database, below.url, Option.none_or]

/-! ### The counts of the database -/

/-- The variable of a count is not looked at, because the environment has no address, and it gives
something else than the usual count. -/
structure PassedOver (env : Environment) (file : Option Nat) (name : String)
    (read : String → Except SettingFault Nat) (usual : Nat) : Prop where
  unaddressed : env "TOLLGATE_POSTGRES_URL" = none
  unset : file = none
  given : ∃ text, env name = some text ∧ read text ≠ .ok usual

/-- With an address in the environment a count is looked for in every layer. -/
theorem layered_count_of_addressed {file : Option Nat} {read : String → Except SettingFault Nat}
    {usual count : Nat} {url : String} (addressed : env "TOLLGATE_POSTGRES_URL" = some url)
    (below : layered none ((env name).map read) usual = .ok count) :
    layered (file.map .ok) ((env name).map read) usual = .ok (file.getD count) ↔
      ¬ PassedOver env file name read usual := by
  constructor
  · rintro - ⟨unaddressed, -, -⟩
    rw [addressed] at unaddressed
    cases unaddressed
  · intro _
    cases file with
    | none => exact below
    | some given => rfl

/-- Without one, what the file does not give is as usual. -/
theorem layered_count_of_unaddressed {file : Option Nat} {read : String → Except SettingFault Nat}
    {usual : Nat} (unaddressed : env "TOLLGATE_POSTGRES_URL" = none) :
    layered (file.map .ok) ((env name).map read) usual = .ok (file.getD usual) ↔
      ¬ PassedOver env file name read usual := by
  cases file with
  | some given =>
    constructor
    · rintro - ⟨-, unset, -⟩
      cases unset
    · exact fun _ => rfl
  | none =>
    constructor
    · rintro same ⟨-, -, text, found, other⟩
      rw [found] at same
      exact other same
    · intro looked
      cases found : env name with
      | none => rfl
      | some text =>
        by_contra other
        exact looked ⟨unaddressed, rfl, text, found, other⟩

/-- The counts of a database with overrides are as usual if only the file gives its address. -/
theorem counts_database {current : Option DatabaseSettings} {d : DatabaseSettings}
    (member : d ∈ o.database current) :
    let below := current.getD { url := d.url }
    d.maxConnections = o.maxConnections.getD below.maxConnections ∧
      d.acquireTimeout = o.acquireTimeout.getD below.acquireTimeout := by
  cases given : o.url <;> cases current <;>
    simp only [Overrides.database, given, Option.map_none, Option.map_some, Option.mem_def,
      reduceCtorEq, Option.some.injEq] at member <;>
    subst member <;> exact ⟨rfl, rfl⟩

/-! ### The settings of a daemon -/

/-- What the file overrides that the environment names, if it names one. -/
def overrides (env : Environment) (files : Files) : Overrides :=
  match env "TOLLGATE_CONFIG" with
  | none => {}
  | some path => (readOverrides files path).toOption.getD {}

theorem apply_nothing (s : Settings) : ({} : Overrides).apply s = .ok s := by
  cases s with
  | mk metricsBind storage signalling database =>
    cases database <;> rfl

theorem exists_base (loaded : load env files = .ok s) :
    ∃ base, ofEnvironment env = .ok base ∧ (overrides env files).apply base = .ok s := by
  obtain ⟨base, read, loaded⟩ := exists_of_bind_eq_ok loaded
  refine ⟨base, read, ?_⟩
  unfold overrides
  cases named : env "TOLLGATE_CONFIG" with
  | none =>
    rw [named] at loaded
    exact (apply_nothing base).trans loaded
  | some path =>
    rw [named] at loaded
    obtain ⟨found, given, applied⟩ := exists_of_bind_eq_ok loaded
    simp only [given]
    exact applied

theorem layered_of_load (loaded : load env files = .ok s) :
    Layered env (overrides env files) s := by
  obtain ⟨base, returned, applied⟩ := exists_base loaded
  exact ((layered_ofEnvironment returned).1.apply applied).1

/-- Every setting is that of the topmost layer that gives it, the file or else the environment or
else the usual value. The two counts of the database, if there is one, are so exactly if they are
not passed over. -/
theorem load_layered (loaded : load env files = .ok s) :
    let file := overrides env files
    Layered env file s ∧
    ∀ d ∈ s.database,
      (layered (file.maxConnections.map .ok)
          ((env "TOLLGATE_POSTGRES_MAX_CONNECTIONS").map (readCount largestConnections)) 10 =
            .ok d.maxConnections ↔
        ¬ PassedOver env file.maxConnections "TOLLGATE_POSTGRES_MAX_CONNECTIONS"
          (readCount largestConnections) 10) ∧
      (layered (file.acquireTimeout.map .ok)
          ((env "TOLLGATE_POSTGRES_ACQUIRE_TIMEOUT_MS").map (readCount largestTimeout)) 5000 =
            .ok d.acquireTimeout ↔
        ¬ PassedOver env file.acquireTimeout "TOLLGATE_POSTGRES_ACQUIRE_TIMEOUT_MS"
          (readCount largestTimeout) 5000) := by
  intro file
  obtain ⟨base, returned, applied⟩ := exists_base loaded
  obtain ⟨below, addressed⟩ := layered_ofEnvironment returned
  obtain ⟨every, same⟩ := below.apply applied
  refine ⟨every, fun d member => ?_⟩
  rw [same] at member
  obtain ⟨connections, timeout⟩ := counts_database member
  rw [connections, timeout]
  have spec := readDatabase_spec addressed
  cases address : env "TOLLGATE_POSTGRES_URL" with
  | none =>
    rw [address] at spec
    rw [spec]
    exact ⟨layered_count_of_unaddressed address, layered_count_of_unaddressed address⟩
  | some url =>
    rw [address] at spec
    obtain ⟨below, found, -, counted, timed⟩ := spec
    rw [found]
    exact ⟨layered_count_of_addressed address counted, layered_count_of_addressed address timed⟩

/-- An environment with a file, a number of connections, and an address of the database if any. -/
def connecting (url : Option String) : Environment
  | "TOLLGATE_POSTGRES_URL" => url
  | "TOLLGATE_POSTGRES_MAX_CONNECTIONS" => some "3"
  | "TOLLGATE_CONFIG" => some "authz.yaml"
  | _ => none

def addressing : Files := fun _ => .ok "postgres_url: postgres://db/tollgate\n"

/-- The address is that of the file, and the number of connections that of the environment. -/
theorem load_layered_connecting :
    let env := connecting (some "postgres://localhost/tollgate")
    let s : Settings := { database := some { url := "postgres://db/tollgate", maxConnections := 3 } }
    load env addressing = .ok s ∧ Layered env (overrides env addressing) s ∧
      ¬ PassedOver env (overrides env addressing).maxConnections
        "TOLLGATE_POSTGRES_MAX_CONNECTIONS" (readCount largestConnections) 10 := by
  intro env s
  have loaded : load env addressing = .ok s := by decide +kernel
  obtain ⟨every, counts⟩ := load_layered loaded
  exact ⟨loaded, every, (counts _ rfl).1.mp (by decide +kernel)⟩

/-- Only the file gives the address, and the number of connections is not that of the environment. -/
theorem load_not_layered :
    let env := connecting none
    load env addressing = .ok { database := some { url := "postgres://db/tollgate" } } ∧
      ({ url := "postgres://db/tollgate" } : DatabaseSettings).maxConnections = 10 ∧
      layered ((overrides env addressing).maxConnections.map .ok)
        ((env "TOLLGATE_POSTGRES_MAX_CONNECTIONS").map (readCount largestConnections)) 10 =
          .ok 3 := by
  exact ⟨by decide +kernel, rfl, by decide +kernel⟩

end Settings

end Entitlement
