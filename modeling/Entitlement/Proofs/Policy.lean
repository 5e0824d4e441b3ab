import Mathlib.Data.Finset.Sort
import Mathlib.Data.Prod.Lex
import Mathlib.Data.String.Basic
import Entitlement.Proofs.Validation

/-!
# The plain policy

What a caller may think the service is: a set of grants and a set of assignments, without a store,
an index or a channel. Requests whose demands are met change the sets or are answered from them,
all others are refused.
-/

namespace Entitlement

/-- Domain, object and action of a grant, compared in this order. -/
def Grant.scope (g : Grant) : String ×ₗ String ×ₗ String :=
  toLex (g.domain, toLex (g.object, g.action))

structure Policy where
  grants : Finset Grant
  assignments : Finset Assignment
deriving DecidableEq

namespace Policy

/-! ### Requests -/

/-- What can be asked of the service. A single grant is a list of one action. -/
inductive Request where
  | grant (role domain object : String) (actions : List String)
  | revoke (role domain object : String) (actions : List String)
  | assign (user role domain : String)
  | unassign (user role domain : String)
  | assignAll (users : List String) (role domain : String)
  | roles (user domain : String)
  | permissions (user domain : String)
  | domains (user : String)
  | holders (role domain : String)
  | allows (user domain object action : String)
deriving DecidableEq, Repr

inductive Response where
  | done
  | names (list : List String)
  | verdict (allowed : Bool)
deriving DecidableEq, Repr

/-- What a request has to give, in the order in which it is checked. -/
def Request.demands : Request → List Demand
  | grant role domain object actions => grantDemands role domain object actions
  | revoke role domain object actions => grantDemands role domain object actions
  | assign user role domain => assignmentDemands user role domain
  | unassign user role domain => assignmentDemands user role domain
  | assignAll users role domain => usersDemands users role domain
  | roles user domain => [.text "user" user, .text "domain" domain]
  | permissions user domain => [.text "user" user, .text "domain" domain]
  | domains user => [.text "user" user]
  | holders role domain => [.text "role" role, .text "domain" domain]
  | allows user domain object action =>
    [.text "object" object, .text "action" action, .text "user" user, .text "domain" domain]

def empty : Policy := ⟨∅, ∅⟩

/-! ### Changes -/

def apply (p : Policy) : Request → Policy
  | .grant role domain object actions =>
    { p with grants := p.grants ∪ (actions.map fun action =>
        (⟨role, domain, object, action⟩ : Grant)).toFinset }
  | .revoke role domain object actions =>
    { p with grants := p.grants \ (actions.map fun action =>
        (⟨role, domain, object, action⟩ : Grant)).toFinset }
  | .assign user role domain =>
    { p with assignments := insert ⟨user, role, domain⟩ p.assignments }
  | .unassign user role domain =>
    { p with assignments := p.assignments.erase ⟨user, role, domain⟩ }
  | .assignAll users role domain =>
    { p with assignments := p.assignments ∪ (users.map fun user =>
        (⟨user, role, domain⟩ : Assignment)).toFinset }
  | _ => p

/-! ### Answers -/

def rolesOf (p : Policy) (user domain : String) : Finset String :=
  (p.assignments.filter fun a => a.user = user ∧ a.domain = domain).image (·.role)

def holdersOf (p : Policy) (role domain : String) : Finset String :=
  (p.assignments.filter fun a => a.role = role ∧ a.domain = domain).image (·.user)

def domainsOf (p : Policy) (user : String) : Finset String :=
  (p.assignments.filter fun a => a.user = user).image (·.domain)

theorem mem_rolesOf {p : Policy} {user role domain : String} :
    role ∈ p.rolesOf user domain ↔ ⟨user, role, domain⟩ ∈ p.assignments := by
  simp only [rolesOf, Finset.mem_image, Finset.mem_filter]
  constructor
  · rintro ⟨⟨u, r, d⟩, ⟨member, rfl, rfl⟩, rfl⟩
    exact member
  · intro member
    exact ⟨_, ⟨member, rfl, rfl⟩, rfl⟩

theorem mem_holdersOf {p : Policy} {user role domain : String} :
    user ∈ p.holdersOf role domain ↔ ⟨user, role, domain⟩ ∈ p.assignments := by
  simp only [holdersOf, Finset.mem_image, Finset.mem_filter]
  constructor
  · rintro ⟨⟨u, r, d⟩, ⟨member, rfl, rfl⟩, rfl⟩
    exact member
  · intro member
    exact ⟨_, ⟨member, rfl, rfl⟩, rfl⟩

theorem mem_domainsOf {p : Policy} {user domain : String} :
    domain ∈ p.domainsOf user ↔ ∃ role, ⟨user, role, domain⟩ ∈ p.assignments := by
  simp only [domainsOf, Finset.mem_image, Finset.mem_filter]
  constructor
  · rintro ⟨⟨u, r, d⟩, ⟨member, rfl⟩, rfl⟩
    exact ⟨r, member⟩
  · rintro ⟨role, member⟩
    exact ⟨_, ⟨member, rfl⟩, rfl⟩

def scopesOf (p : Policy) (role : String) : Finset (String ×ₗ String ×ₗ String) :=
  (p.grants.filter fun g => g.role = role).image Grant.scope

def permissionText (scope : String ×ₗ String ×ₗ String) : String :=
  (ofLex (ofLex scope).2).1 ++ "#" ++ (ofLex (ofLex scope).2).2

/-- Role by role; what two roles or two domains grant is listed twice. -/
def permissionsOf (p : Policy) (user domain : String) : List String :=
  (p.rolesOf user domain).sort.flatMap fun role => (p.scopesOf role).sort.map permissionText

def answer (p : Policy) (defaultDomain : String) : Request → Response
  | .roles user domain => .names (p.rolesOf user domain).sort
  | .permissions user domain => .names (p.permissionsOf user domain)
  | .domains user => .names (((p.domainsOf user).erase defaultDomain).sort ++ [defaultDomain])
  | .holders role domain => .names (p.holdersOf role domain).sort
  | .allows user domain object action =>
    .verdict ((object ++ "#" ++ action) ∈ p.permissionsOf user domain)
  | _ => .done

/-- A request that lacks something is refused and changes nothing. -/
def step (p : Policy) (defaultDomain : String) (request : Request) :
    Except Failure Response × Policy :=
  match Demand.check request.demands with
  | .error cause => (.error cause, p)
  | .ok () => (.ok (p.answer defaultDomain request), p.apply request)

/-- The answers to the requests, in their order, and the policy afterwards. -/
def run (defaultDomain : String) : List Request → Policy → List (Except Failure Response) × Policy
  | [], p => ([], p)
  | request :: rest, p =>
    let (response, q) := p.step defaultDomain request
    let (responses, last) := run defaultDomain rest q
    (response :: responses, last)

end Policy

end Entitlement
