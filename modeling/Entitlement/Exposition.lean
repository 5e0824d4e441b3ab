import Entitlement.Event

/-!
# Exposition

The counters as families for a collector: what kind each of them is and what it says. The families
are served at one path, which can only be read.
-/

namespace Entitlement

inductive FamilyKind where
  | counter
  -- Samples, shown by their quantiles.
  | summary
deriving DecidableEq, Repr, Inhabited

def FamilyKind.name : FamilyKind → String
  | counter => "counter"
  | summary => "summary"

def FamilyKind.quantiles : FamilyKind → List String
  | counter => []
  | summary => ["0", "0.5", "0.9", "0.95", "0.99", "0.999", "1"]

namespace Counter

def kind : Counter → FamilyKind
  | rebuildDuration => .summary
  | rebuilds | rebuildFailures | signalFailures | listenerErrors => .counter

def help : Counter → String
  | rebuilds => "Policy index rebuilds swapped in"
  | rebuildFailures => "Policy index rebuilds that failed and kept the previous index"
  | rebuildDuration => "Time to rebuild the policy index from the relation store"
  | signalFailures => "Policy change notifications that could not be published"
  | listenerErrors => "Errors while receiving policy change notifications"

end Counter

inductive Body where
  | families
  | text (contents : String)
deriving DecidableEq, Repr, Inhabited

structure Reply where
  status : Nat
  -- The methods that would be accepted, where another one was refused.
  allow : Option String := none
  contentType : Option String := none
  body : Body
deriving DecidableEq, Repr, Inhabited

namespace Exposition

def path : String := "/metrics"

/-- The path of a target, without a query or a fragment behind it. -/
def pathOf (target : String) : String :=
  String.ofList (target.toList.takeWhile fun c => !(c == '?' || c == '#'))

def reply (method target : String) : Reply :=
  if pathOf target ≠ path then { status := 404, body := .text "" }
  else
    match method with
    | "GET" => { status := 200, contentType := some "text/plain; charset=utf-8", body := .families }
    | "HEAD" => { status := 200, contentType := some "text/plain; charset=utf-8", body := .text "" }
    | _ => { status := 405, allow := some "GET,HEAD", body := .text "" }

end Exposition

end Entitlement
