/-!
# Failures

What can go wrong, by cause. A denial is no failure: negative answers are `false` or empty lists.
-/

namespace Entitlement

inductive StoreFailure where
  | notFound (text : String)
  | conflict (text : String)
  | unavailable (text : String)
  | unexpected (text : String)
deriving DecidableEq, Repr, Inhabited

inductive SignalFailure where
  | closed
  | transport (text : String)
deriving DecidableEq, Repr, Inhabited

inductive Failure where
  -- The request itself is not acceptable.
  | invalid (reason : String)
  | store (cause : StoreFailure)
  | signal (cause : SignalFailure)
  -- The fact is written, but the index still predates it.
  | stale (cause : Failure)
  -- The namespace is registered and has no administrator.
  | orphaned (namespaceName : String) (cause : Failure)
deriving DecidableEq, Repr, Inhabited

def StoreFailure.message : StoreFailure → String
  | notFound text => "not found: " ++ text
  | conflict text => "conflict: " ++ text
  | unavailable text => "unavailable: " ++ text
  | unexpected text => text

def SignalFailure.message : SignalFailure → String
  | closed => "notifier channel closed"
  | transport text => text

namespace Failure

def missing (field : String) : Failure := .invalid (field ++ " is required")

def message : Failure → String
  | invalid reason => "invalid request: " ++ reason
  | store cause => "relation store error: " ++ cause.message
  | signal cause => "change notifier error: " ++ cause.message
  | stale cause => "write persisted but policy index reload failed: " ++ cause.message
  | orphaned name cause =>
    "namespace " ++ name ++ " created without an administrator: " ++ cause.message

/-- The failed call has changed the store all the same. -/
def writePersisted : Failure → Bool
  | stale _ => true
  | _ => false

def causes : Failure → List String
  | invalid _ => []
  | store cause => [cause.message]
  | signal cause => [cause.message]
  | stale cause => cause.message :: cause.causes
  | orphaned _ cause => cause.message :: cause.causes

end Failure

end Entitlement
