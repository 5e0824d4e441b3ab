import Entitlement.Fleet
import Entitlement.Proofs.Mirror
import Entitlement.Proofs.Validation

/-!
# Queries

A query checks what its request has to give and then answers from the index of its replica. It
leaves the fleet as it is.
-/

namespace Entitlement

open Fleet (handler)

/-- The permissions of a user in a domain, role by role. -/
def Index.permissionsOf (i : Index) (user domain : String) : List String :=
  (i.rolesOf user domain).flatMap fun role => (i.grantsOf role none).map Grant.permission

namespace Authority

variable {k : Nat} {f : Fleet} {user role domain object action : String}

theorem run_look {α : Type} (question : Index → α) (f : Fleet) :
    (Call.look question).run (handler k) f = (question (f.indexOf k), f) := rfl

/-- A required field that is blank ends the attempt before it does anything. -/
theorem run_required {α : Type} (field value : String) (next : Attempt α) :
    f.run k (do required field value; next) =
      if (Demand.text field value).met then f.run k next else (.error (.missing field), f) := by
  cases blank : Text.isBlank value <;> simp [Fleet.run, required, Demand.met, blank]

theorem answer_cons {α : Type} (value : α) (d : Demand) (rest : List Demand) (f : Fleet) :
    ((Demand.check (d :: rest)).map fun _ => value, f) =
      if d.met then ((Demand.check rest).map fun _ => value, f)
      else (.error (.missing d.field), f) := by
  rw [Demand.map_check_cons]
  split <;> rfl

theorem run_roles : f.run k (roles user domain) =
    ((Demand.check [.text "user" user, .text "domain" domain]).map
      fun _ => (f.indexOf k).rolesOf user domain, f) := by
  simp only [roles, run_required, answer_cons]
  rfl

theorem run_holders : f.run k (holders role domain) =
    ((Demand.check [.text "role" role, .text "domain" domain]).map
      fun _ => (f.indexOf k).holdersOf role domain, f) := by
  simp only [holders, run_required, answer_cons]
  rfl

theorem run_domains (me : Profile) : f.run k (domains me user) =
    ((Demand.check [.text "user" user]).map fun _ =>
      ((f.indexOf k).domainsOf user).filter (· ≠ me.defaultDomain) ++ [me.defaultDomain], f) := by
  have listed : SortedBy.arrange nameKey
      (((f.indexOf k).domainsOf user).filter (· ≠ me.defaultDomain)) = _ :=
    arrange_names ((sortedNames_ascending _).filter _)
  simp only [domains, run_required, answer_cons]
  rw [← listed]
  rfl

theorem run_permissionsOfRoles (held : List String) :
    (permissionsOfRoles held).run (handler k) f =
      (held.flatMap fun role => ((f.indexOf k).grantsOf role none).map Grant.permission, f) := by
  induction held with
  | nil => rfl
  | cons role rest ih =>
    rw [permissionsOfRoles, Call.run_bind, Call.run_bind, run_look, ih]
    rfl

theorem run_permissions : f.run k (permissions user domain) =
    ((Demand.check [.text "user" user, .text "domain" domain]).map
      fun _ => (f.indexOf k).permissionsOf user domain, f) := by
  have held : f.run k (roles user domain) = _ := run_roles
  unfold Fleet.run at held
  simp only [Fleet.run, permissions, Attempt.run_bind, Call.run_bind, held]
  cases Demand.check [.text "user" user, .text "domain" domain] with
  | error cause => rfl
  | ok =>
    simp only [Except.map, Attempt.run_liftCall, Call.run_bind, run_permissionsOfRoles]
    rfl

theorem run_allows : f.run k (allows user domain object action) =
    ((Demand.check [.text "object" object, .text "action" action, .text "user" user,
      .text "domain" domain]).map
      fun _ => ((f.indexOf k).permissionsOf user domain).contains (permissionKey object action),
      f) := by
  have granted : f.run k (permissions user domain) = _ := run_permissions
  rw [allows, run_required, run_required, answer_cons, answer_cons]
  simp only [Fleet.run, Attempt.run_bind, Call.run_bind] at granted ⊢
  rw [granted]
  cases Demand.check [.text "user" user, .text "domain" domain] <;> rfl

/-! ### Queries that lack nothing -/

section Given

variable (userGiven : Text.isBlank user = false)

include userGiven

theorem run_domains_of_given (me : Profile) : f.run k (domains me user) =
    (.ok (((f.indexOf k).domainsOf user).filter (· ≠ me.defaultDomain) ++ [me.defaultDomain]),
      f) := by
  rw [run_domains, answer_cons, if_pos (by simpa [Demand.met] using userGiven)]
  rfl

theorem run_permissions_of_given (domainGiven : Text.isBlank domain = false) :
    f.run k (permissions user domain) = (.ok ((f.indexOf k).permissionsOf user domain), f) := by
  rw [run_permissions, answer_cons, if_pos (by simpa [Demand.met] using userGiven), answer_cons,
    if_pos (by simpa [Demand.met] using domainGiven)]
  rfl

theorem run_allows_of_given (domainGiven : Text.isBlank domain = false)
    (objectGiven : Text.isBlank object = false) (actionGiven : Text.isBlank action = false) :
    f.run k (allows user domain object action) =
      (.ok (((f.indexOf k).permissionsOf user domain).contains (permissionKey object action)),
        f) := by
  rw [run_allows, answer_cons, if_pos (by simpa [Demand.met] using objectGiven), answer_cons,
    if_pos (by simpa [Demand.met] using actionGiven), answer_cons,
    if_pos (by simpa [Demand.met] using userGiven), answer_cons,
    if_pos (by simpa [Demand.met] using domainGiven)]
  rfl

end Given

end Authority

end Entitlement
