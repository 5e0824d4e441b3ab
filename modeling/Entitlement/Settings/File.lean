import Entitlement.Settings
import Entitlement.Yaml.Entries

/-!
# The settings file

A YAML mapping of some of the settings. Unknown keys are passed over, a known key must not be
repeated, and a key without a value overrides nothing.
-/

namespace Entitlement

namespace Overrides

/-- The value of the only entry with that key, read as a field. -/
def field? {α : Type} (key : String) (read : Yaml.Content → Option (Option α))
    (entries : List (String × Yaml.Content)) : Option (Option α) :=
  match entries.filter (·.1 == key) with
  | [] => some none
  | [(_, value)] => read value
  | _ => none

def ofText? (text : String) : Option Overrides := do
  let pairs ← Yaml.entriesOf? text
  let entries ← pairs.mapM fun (key, value) => return (← key.key?, value)
  let string (key : String) := field? key Yaml.Content.text? entries
  let count (key : String) (largest : Nat) := field? key (Yaml.Content.count? largest) entries
  return { metricsBind := ← string "metrics_bind", storage := ← string "storage",
           url := ← string "postgres_url",
           maxConnections := ← count "postgres_max_connections" Settings.largestConnections,
           acquireTimeout := ← count "postgres_acquire_timeout_ms" Settings.largestTimeout,
           signalling := ← string "notifier", channel := ← string "notify_channel",
           defaultDomain := ← string "default_domain", adminRole := ← string "admin_role" }

end Overrides

namespace Settings

abbrev Files := String → Except FileFault String

def readOverrides (files : Files) (path : String) : Except SettingFailure Overrides :=
  match files path with
  | .error fault => .error ⟨"read TOLLGATE_CONFIG: " ++ path, .file fault⟩
  | .ok contents =>
    match Overrides.ofText? contents with
    | some overrides => .ok overrides
    | none => .error ⟨"parse authz config yaml", .unreadable⟩

/-- The settings of the environment, changed by the file that it names, if it names one. -/
def load (env : Environment) (files : Files) : Except SettingFailure Settings := do
  let settings ← ofEnvironment env
  match env "TOLLGATE_CONFIG" with
  | none => return settings
  | some path =>
    let overrides ← readOverrides files path
    overrides.apply settings

end Settings

end Entitlement
