import Entitlement.Fact
import Entitlement.Failure

/-!
# Events and counters

What the library reports about itself while it works: events for a log, each with a severity, a
target and fields in order, and counters.
-/

namespace Entitlement

inductive Severity where
  | error
  | warn
  | info
  | debug
  | trace
deriving DecidableEq, Repr, Inhabited

namespace Severity

/-- The most severe first. -/
def rank : Severity → Nat
  | error => 1
  | warn => 2
  | info => 3
  | debug => 4
  | trace => 5

def reaches (s threshold : Severity) : Bool := s.rank ≤ threshold.rank

def name : Severity → String
  | error => "error"
  | warn => "warn"
  | info => "info"
  | debug => "debug"
  | trace => "trace"

end Severity

/-- The value of an event's field. A quoted text stands in quotation marks in a log line. -/
inductive FieldValue where
  | plain (text : String)
  | quoted (text : String)
  | count (n : Nat)
  | flag (b : Bool)
deriving DecidableEq, Repr, Inhabited

inductive Event where
  | observing (service : String)
  | storeIsVolatile
  | replicaLoaded (id store channel : String)
  | indexRebuilt (id : String)
  | rebuildFailed (id : String) (cause : Failure)
  | signalFailed (id : String) (cause : SignalFailure)
  | watcherStopped
  | receiverLagged (skipped : Nat)
  | granted (role domain object : String) (count : Nat)
  | revoked (role domain object : String) (count : Nat)
  | assigned (user role domain : String)
  | unassigned (user role domain : String)
  | batchFailed (user role domain : String) (cause : Failure) (rollback : Nat)
  | undoFailed (assignment : Assignment) (cause : Failure)
  | batchDone (role domain : String) (assigned : Nat)
  | namespaceOrphaned (namespaceName creator role : String) (cause : Failure)
  | namespaceCreated (namespaceName creator : String)
  | listening (channel : String)
  | listenerReconnecting (channel : String)
  | listenerFailed (channel cause : String)
  | parameterIgnored (key value : String)
  | passwordFileMissing (path : String)
  | daemonReady (id metricsBind : String) (durable : Bool)
  | daemonStopping
deriving DecidableEq, Repr, Inhabited

namespace Event

def severity : Event → Severity
  | undoFailed .. => .error
  | storeIsVolatile | rebuildFailed .. | signalFailed .. | batchFailed .. | namespaceOrphaned ..
  | listenerReconnecting .. | listenerFailed .. | parameterIgnored .. => .warn
  | observing .. | indexRebuilt .. | watcherStopped | receiverLagged .. | passwordFileMissing .. =>
    .debug
  | replicaLoaded .. | granted .. | revoked .. | assigned .. | unassigned .. | batchDone ..
  | namespaceCreated .. | listening .. | daemonReady .. | daemonStopping => .info

def target : Event → String
  | observing .. => "authzd::observability"
  | storeIsVolatile => "authzd::app"
  | listening .. | listenerReconnecting .. | listenerFailed .. => "authzd::notify"
  | parameterIgnored .. => "sqlx_postgres::options::parse"
  | passwordFileMissing .. => "sqlx_postgres::options::pgpass"
  | daemonReady .. | daemonStopping => "authzd"
  | replicaLoaded .. | indexRebuilt .. | rebuildFailed .. | signalFailed .. | watcherStopped =>
    "tollgate_authz::enforcer"
  | receiverLagged .. => "tollgate_authz::notifier"
  | granted .. | revoked .. | assigned .. | unassigned .. | batchFailed .. | undoFailed ..
  | batchDone .. => "tollgate_authz::service"
  | namespaceOrphaned .. | namespaceCreated .. => "tollgate_authz::bootstrap"

def message : Event → String
  | observing .. => "observability initialized"
  | storeIsVolatile => "relation store is in-memory; policy is lost on restart"
  | replicaLoaded .. => "policy enforcer loaded"
  | indexRebuilt .. => "policy index reloaded"
  | rebuildFailed .. => "policy index reload failed; keeping previous index"
  | signalFailed .. => "failed to publish policy change"
  | watcherStopped => "policy change watcher stopped"
  | receiverLagged .. => "policy change subscriber lagged; coalescing"
  | granted .. => "permissions granted"
  | revoked .. => "permissions revoked"
  | assigned .. => "role assigned"
  | unassigned .. => "role unassigned"
  | batchFailed .. => "batch role assignment failed; rolling back"
  | undoFailed .. => "compensating unassignment failed; assignment left in place"
  | batchDone .. => "batch role assignment done"
  | namespaceOrphaned .. => "namespace created without an administrator"
  | namespaceCreated .. => "namespace created"
  | listening .. => "postgres change notifier listening"
  | listenerReconnecting .. => "policy change listener reconnecting"
  | listenerFailed .. => "policy change listener error"
  | parameterIgnored .. => "ignoring unrecognized connect parameter"
  | passwordFileMissing .. => "\x60.pgpass\x60 file not found"
  | daemonReady .. => "authorization daemon ready"
  | daemonStopping => "authorization daemon shutting down"

/-- The named values of an event, in the order in which a log line shows them. -/
def fields : Event → List (String × FieldValue)
  | observing service => [("service", .quoted service)]
  | storeIsVolatile | watcherStopped | daemonStopping => []
  | replicaLoaded id store channel =>
    [("instance_id", .plain id), ("store", .quoted store), ("notifier", .quoted channel)]
  | indexRebuilt id => [("instance_id", .plain id)]
  | rebuildFailed id cause => [("instance_id", .plain id), ("error", .plain cause.message)]
  | signalFailed id cause => [("instance_id", .plain id), ("error", .plain cause.message)]
  | receiverLagged skipped => [("skipped", .count skipped)]
  | granted role domain object count | revoked role domain object count =>
    [("role", .quoted role), ("domain", .quoted domain), ("object", .quoted object),
     ("count", .count count)]
  | assigned user role domain | unassigned user role domain =>
    [("user", .quoted user), ("role", .quoted role), ("domain", .quoted domain)]
  | batchFailed user role domain cause rollback =>
    [("user", .quoted user), ("role", .quoted role), ("domain", .quoted domain),
     ("error", .plain cause.message), ("rollback", .count rollback)]
  | undoFailed a cause =>
    [("user", .plain a.user), ("role", .plain a.role), ("domain", .plain a.domain),
     ("error", .plain cause.message)]
  | batchDone role domain count =>
    [("role", .quoted role), ("domain", .quoted domain), ("assigned", .count count)]
  | namespaceOrphaned name creator role cause =>
    [("namespace", .plain name), ("creator", .quoted creator), ("role", .plain role),
     ("error", .plain cause.message)]
  | namespaceCreated name creator => [("namespace", .plain name), ("creator", .quoted creator)]
  | listening channel | listenerReconnecting channel => [("channel", .plain channel)]
  | listenerFailed channel cause => [("channel", .plain channel), ("error", .plain cause)]
  | parameterIgnored key value => [("key", .plain key), ("value", .plain value)]
  | passwordFileMissing path => [("path", .plain path)]
  | daemonReady id metricsBind durable =>
    [("instance_id", .plain id), ("metrics_bind", .plain metricsBind), ("durable", .flag durable)]

end Event

/-- What is counted. The duration family is a summary: each rebuild adds one sample to it. -/
inductive Counter where
  | rebuilds
  | rebuildFailures
  | rebuildDuration
  | signalFailures
  | listenerErrors
deriving DecidableEq, Repr, Inhabited

namespace Counter

def all : List Counter :=
  [rebuilds, rebuildFailures, rebuildDuration, signalFailures, listenerErrors]

def name : Counter → String
  | rebuilds => "tollgate_policy_reloads_total"
  | rebuildFailures => "tollgate_policy_reload_failures_total"
  | rebuildDuration => "tollgate_policy_reload_duration_seconds"
  | signalFailures => "tollgate_notify_failures_total"
  | listenerErrors => "tollgate_notify_listener_errors_total"

end Counter

inductive Trace where
  | event (e : Event)
  | counted (c : Counter)
deriving DecidableEq, Repr, Inhabited

/-- The record of a whole run, the newest entry first. -/
abbrev Telemetry := List Trace

namespace Telemetry

def events (t : Telemetry) : List Event :=
  (t.filterMap fun
    | .event e => some e
    | .counted _ => none).reverse

def count (t : Telemetry) (c : Counter) : Nat :=
  List.count (.counted c) t

def dropEvents (t : Telemetry) : Telemetry :=
  t.filter fun
    | .event _ => false
    | .counted _ => true

def counts (t : Telemetry) : List (Counter × Nat) :=
  (Counter.all.map fun c => (c, t.count c)).filter fun (_, n) => n ≠ 0

end Telemetry

end Entitlement
