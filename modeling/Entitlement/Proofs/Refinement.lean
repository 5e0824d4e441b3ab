import Entitlement.Proofs.Policy
import Entitlement.Proofs.Query
import Entitlement.Proofs.Steady

/-!
# The service refines the plain policy

One replica over a store that nobody else writes to and that never fails answers every sequence of
requests as the plain policy does. The store holds the two sets and the index mirrors the store, so
each change is a change of the sets, and each list the sorted form of a set.
-/

namespace Entitlement

open Policy (Response Request)

/-! ### Serving requests -/

/-- The operation behind a request. -/
def Policy.Request.call (me : Profile) : Request → Attempt Response
  | grant role domain object actions =>
    (fun _ => .done) <$> Authority.grant me role domain object actions
  | revoke role domain object actions =>
    (fun _ => .done) <$> Authority.revoke me role domain object actions
  | assign user role domain => (fun _ => .done) <$> Authority.assign me user role domain
  | unassign user role domain => (fun _ => .done) <$> Authority.unassign me user role domain
  | assignAll users role domain => (fun _ => .done) <$> Authority.assignAll me users role domain
  | roles user domain => .names <$> Authority.roles user domain
  | permissions user domain => .names <$> Authority.permissions user domain
  | domains user => .names <$> Authority.domains me user
  | holders role domain => .names <$> Authority.holders role domain
  | allows user domain object action => .verdict <$> Authority.allows user domain object action

/-- Replica `k` serves the requests one after the other. -/
def Fleet.serve (k : Nat) (me : Profile) :
    List Request → Fleet → List (Except Failure Response) × Fleet
  | [], f => ([], f)
  | request :: rest, f =>
    let (response, g) := f.run k (request.call me)
    let (responses, last) := serve k me rest g
    (response :: responses, last)

/-! ### Refusing requests -/

namespace Attempt

variable {α β : Type} {cause : Failure}

/-- An attempt that has failed goes no further. -/
theorem bind_of_done {attempt : Attempt α} (next : α → Attempt β)
    (failed : attempt.run = .done (.error cause)) :
    (attempt >>= next).run = .done (.error cause) := by
  rw [run_bind, failed, Call.done_bind]

/-- What is required in front comes first, the others only if it is given. -/
theorem required_of_unmet {field value : String} {rest : List Demand} {next : Attempt α}
    (unmet : Demand.check (.text field value :: rest) = .error cause)
    (others : Demand.check rest = .error cause → next.run = .done (.error cause)) :
    (do required field value; next : Attempt α).run = .done (.error cause) := by
  rw [Demand.check_cons] at unmet
  cases blank : Text.isBlank value with
  | false => simpa [required, blank] using others (by simpa [Demand.met, blank] using unmet)
  | true => simpa [required, blank, Demand.met, Demand.field] using unmet

/-- If only one thing is required, it is what is missing. -/
theorem required_last_of_unmet {field value : String} {next : Attempt α}
    (unmet : Demand.check [.text field value] = .error cause) :
    (do required field value; next : Attempt α).run = .done (.error cause) :=
  required_of_unmet unmet nofun

end Attempt

namespace Authority

open Attempt (bind_of_done required_of_unmet required_last_of_unmet)

variable {user domain : String} {cause : Failure}

theorem roles_of_unmet
    (unmet : Demand.check [.text "user" user, .text "domain" domain] = .error cause) :
    (roles user domain).run = .done (.error cause) :=
  required_of_unmet unmet required_last_of_unmet

theorem permissions_of_unmet
    (unmet : Demand.check [.text "user" user, .text "domain" domain] = .error cause) :
    (permissions user domain).run = .done (.error cause) :=
  bind_of_done _ (roles_of_unmet unmet)

end Authority

open Attempt (bind_of_done required_of_unmet required_last_of_unmet) in
/-- A request that lacks something does nothing. -/
theorem Policy.Request.call_of_unmet (me : Profile) {request : Request} {cause : Failure}
    (unmet : Demand.check request.demands = .error cause) :
    (request.call me).run = .done (.error cause) := by
  cases request <;> simp only [Request.demands] at unmet <;> apply bind_of_done
  case grant => simp [Authority.grant, checkedGrants_eq, unmet, Except.map]
  case revoke => simp [Authority.revoke, checkedGrants_eq, unmet, Except.map]
  case assign => simp [Authority.assign, checkedAssignment_eq, unmet, Except.map]
  case unassign => simp [Authority.unassign, checkedAssignment_eq, unmet, Except.map]
  case assignAll => simp [Authority.assignAll, checkedUsers_eq, unmet]
  case roles => exact Authority.roles_of_unmet unmet
  case permissions => exact Authority.permissions_of_unmet unmet
  case domains => exact required_last_of_unmet unmet
  case holders => exact required_of_unmet unmet required_last_of_unmet
  case allows =>
    exact required_of_unmet unmet fun unmet => required_of_unmet unmet fun unmet =>
      bind_of_done _ (Authority.permissions_of_unmet unmet)

/-! ### Lists in ascending order -/

theorem eq_sort_of_ascending {α : Type} [LinearOrder α] {l : List α} {s : Finset α}
    (ascending : l.Pairwise (· < ·)) (same : ∀ a, a ∈ l ↔ a ∈ s) : l = s.sort := by
  refine List.SortedLT.eq_of_mem_iff ascending.sortedLT s.sortedLT_sort fun a => ?_
  rw [same, Finset.mem_sort]

/-! ### The relation between fleet and policy -/

/-- Replica `k` is steady and the store holds the two sets. The empty role would stand for every
role, so no assignment may have it. -/
structure Refines (f : Fleet) (k : Nat) (p : Policy) : Prop where
  steady : f.Steady k
  grants : ∀ g, f.relations.Holds (.grant g) ↔ g ∈ p.grants
  assignments : ∀ a, f.relations.Holds (.assignment a) ↔ a ∈ p.assignments
  named : ∀ a ∈ p.assignments, a.role ≠ ""

/-- Among grants of one role the order of the store is the order of the scopes. -/
theorem Grant.scope_lt {g h : Grant} (same : g.role = h.role) (less : g.key < h.key) :
    g.scope < h.scope := by
  simp only [Grant.key, List.cons_lt_cons_iff, same, lt_self_iff_false, true_and, false_or] at less
  simp only [Grant.scope, Prod.Lex.toLex_lt_toLex]
  simpa only [and_false, or_false] using less

namespace Refines

variable {k : Nat} {f : Fleet} {p : Policy} {user role domain : String}

theorem rolesOf_eq (refines : Refines f k p) (given : user ≠ "") :
    (f.indexOf k).rolesOf user domain = (p.rolesOf user domain).sort := by
  refine eq_sort_of_ascending (sortedNames_ascending _) fun role => ?_
  rw [refines.steady.current, Index.mem_rolesOf given, Policy.mem_rolesOf]
  exact refines.assignments _

theorem holdersOf_eq (refines : Refines f k p) (given : role ≠ "") :
    (f.indexOf k).holdersOf role domain = (p.holdersOf role domain).sort := by
  refine eq_sort_of_ascending (sortedNames_ascending _) fun user => ?_
  rw [refines.steady.current, Index.mem_holdersOf given, Policy.mem_holdersOf]
  exact refines.assignments _

theorem domainsOf_eq (refines : Refines f k p) (given : user ≠ "") (defaultDomain : String) :
    ((f.indexOf k).domainsOf user).filter (· ≠ defaultDomain) =
      ((p.domainsOf user).erase defaultDomain).sort := by
  refine eq_sort_of_ascending ((sortedNames_ascending _).filter _) fun domain => ?_
  rw [refines.steady.current, List.mem_filter, Index.mem_domainsOf given,
    Finset.mem_erase, Policy.mem_domainsOf, decide_eq_true_iff, and_comm]
  exact and_congr_right fun _ => exists_congr fun role => refines.assignments _

theorem grantsOf_eq (refines : Refines f k p) (given : role ≠ "") :
    ((f.indexOf k).grantsOf role none).map Grant.permission =
      (p.scopesOf role).sort.map Policy.permissionText := by
  have scopes : ((f.indexOf k).grantsOf role none).map Grant.scope = (p.scopesOf role).sort := by
    rw [refines.steady.current]
    refine eq_sort_of_ascending ?_ fun scope => ?_
    -- The index lists the grants in the order of the store.
    · have ascending := f.relations.grants.ascending.filter fun g =>
        Index.named role g.role && agrees none g.domain
      rw [List.pairwise_map, Index.grantsOf]
      refine ascending.imp_of_mem fun inLeft inRight less => ?_
      simp only [List.mem_filter, Bool.and_eq_true, Index.named_iff_of_ne given] at inLeft inRight
      exact Grant.scope_lt (inLeft.2.1.symm.trans inRight.2.1) less
    · simp only [Index.grantsOf, List.mem_map, List.mem_filter, Bool.and_eq_true, agrees_none,
        and_true, Index.named_iff_of_ne given, Policy.scopesOf, Finset.mem_image,
        Finset.mem_filter]
      refine exists_congr fun g => and_congr_left fun _ => ?_
      exact and_congr (refines.grants g) eq_comm
  rw [← scopes, List.map_map]
  rfl

theorem permissionsOf_eq (refines : Refines f k p) (given : user ≠ "") :
    (f.indexOf k).permissionsOf user domain = p.permissionsOf user domain := by
  rw [Index.permissionsOf, refines.rolesOf_eq given, Policy.permissionsOf]
  refine List.flatMap_congr fun role member => refines.grantsOf_eq ?_
  rw [Finset.mem_sort, Policy.mem_rolesOf] at member
  exact refines.named _ member

/-! ### Changes -/

variable {q : Policy} {attempt : Attempt Unit} {facts : List Fact}

theorem of_insert (refines : Refines f k p)
    (achieves : f.Achieves k attempt (f.relations.writeAll .insert facts))
    (grants : ∀ g, g ∈ q.grants ↔ .grant g ∈ facts ∨ g ∈ p.grants)
    (assignments : ∀ a, a ∈ q.assignments ↔ .assignment a ∈ facts ∨ a ∈ p.assignments)
    (named : ∀ a, .assignment a ∈ facts → a.role ≠ "") : Refines (f.run k attempt).2 k q where
  steady := achieves.steady
  grants g := by
    rw [achieves.relations, Relations.holds_writeAll_insert, grants, refines.grants]
  assignments a := by
    rw [achieves.relations, Relations.holds_writeAll_insert, assignments, refines.assignments]
  named a member := by
    rcases (assignments a).mp member with new | old
    · exact named a new
    · exact refines.named a old

theorem of_delete (refines : Refines f k p)
    (achieves : f.Achieves k attempt (f.relations.writeAll .delete facts))
    (grants : ∀ g, g ∈ q.grants ↔ .grant g ∉ facts ∧ g ∈ p.grants)
    (assignments : ∀ a, a ∈ q.assignments ↔ .assignment a ∉ facts ∧ a ∈ p.assignments) :
    Refines (f.run k attempt).2 k q where
  steady := achieves.steady
  grants g := by
    rw [achieves.relations, Relations.holds_writeAll_delete, grants, refines.grants]
  assignments a := by
    rw [achieves.relations, Relations.holds_writeAll_delete, assignments, refines.assignments]
  named a member := refines.named a ((assignments a).mp member).2

end Refines

/-! ### One request -/

section Step

variable {k : Nat} {f : Fleet} {p : Policy} (me : Profile)

theorem run_map {α β : Type} (wrap : α → β) (attempt : Attempt α) :
    f.run k (wrap <$> attempt) = ((f.run k attempt).1.map wrap, (f.run k attempt).2) := by
  have unfolded : wrap <$> attempt = attempt >>= fun value => pure (wrap value) := rfl
  rw [unfolded, Fleet.run, Attempt.run_bind, Call.run_bind, Fleet.run]
  cases (attempt.run.run (Fleet.handler k) f).1 <;> rfl

/-- A request that lacks something is refused and leaves the fleet as it is. -/
theorem run_call_of_unmet {request : Request} {cause : Failure}
    (unmet : Demand.check request.demands = .error cause) :
    f.run k (request.call me) = (.error cause, f) := by
  rw [Fleet.run, request.call_of_unmet me unmet, Call.run_done]

theorem step_refines (refines : Refines f k p) (request : Request) :
    (f.run k (request.call me)).1 = (p.step me.defaultDomain request).1 ∧
      Refines (f.run k (request.call me)).2 k (p.step me.defaultDomain request).2 := by
  cases check : Demand.check request.demands with
  | error cause =>
    rw [run_call_of_unmet me check, Policy.step, check]
    exact ⟨rfl, refines⟩
  | ok =>
    -- Changes are writes of the facts that the policy adds or drops, answers are sorted sets.
    rw [Policy.step, check]
    cases request <;> simp only [Request.demands] at check <;> rw [Request.call, run_map]
    case grant role domain object actions =>
      have achieves := Authority.achieves_grant me refines.steady check
      rw [achieves.result]
      refine ⟨rfl, refines.of_insert achieves ?_ ?_ ?_⟩
      · simp [Policy.apply, or_comm]
      · simp [Policy.apply]
      · simp
    case revoke role domain object actions =>
      have achieves := Authority.achieves_revoke me refines.steady check
      rw [achieves.result]
      refine ⟨rfl, refines.of_delete achieves ?_ ?_⟩
      · simp [Policy.apply, and_comm]
      · simp [Policy.apply]
    case assign user role domain =>
      have achieves := Authority.achieves_assign me refines.steady.serves refines.steady.quiet check
      have given : role ≠ "" := ne_empty_of_check "role" check (by simp [assignmentDemands])
      rw [achieves.result]
      refine ⟨rfl, refines.of_insert achieves ?_ ?_ ?_⟩
      · simp [Policy.apply]
      · simp [Policy.apply]
      · simp [given]
    case unassign user role domain =>
      have achieves :=
        Authority.achieves_unassign me refines.steady.serves refines.steady.quiet check
      rw [achieves.result]
      refine ⟨rfl, refines.of_delete achieves ?_ ?_⟩
      · simp [Policy.apply]
      · simp [Policy.apply]
    case assignAll users role domain =>
      have achieves := Authority.achieves_assignAll me refines.steady check
      have given : role ≠ "" := ne_empty_of_check "role" check (by simp [usersDemands])
      rw [achieves.result]
      refine ⟨rfl, refines.of_insert achieves ?_ ?_ ?_⟩
      · simp [Policy.apply]
      · simp [Policy.apply, or_comm]
      · simp [given]
    case roles user domain =>
      have given : user ≠ "" := ne_empty_of_check "user" check (by simp)
      rw [Authority.run_roles, check, refines.rolesOf_eq given]
      exact ⟨rfl, refines⟩
    case permissions user domain =>
      have given : user ≠ "" := ne_empty_of_check "user" check (by simp)
      rw [Authority.run_permissions, check, refines.permissionsOf_eq given]
      exact ⟨rfl, refines⟩
    case domains user =>
      have given : user ≠ "" := ne_empty_of_check "user" check (by simp)
      rw [Authority.run_domains, check, refines.domainsOf_eq given]
      exact ⟨rfl, refines⟩
    case holders role domain =>
      have given : role ≠ "" := ne_empty_of_check "role" check (by simp)
      rw [Authority.run_holders, check, refines.holdersOf_eq given]
      exact ⟨rfl, refines⟩
    case allows user domain object action =>
      have given : user ≠ "" := ne_empty_of_check "user" check (by simp)
      rw [Authority.run_allows, check, refines.permissionsOf_eq given, List.contains_eq_mem]
      exact ⟨rfl, refines⟩

/-- Every sequence of requests is answered alike. -/
theorem serve_refines (refines : Refines f k p) (requests : List Request) :
    (f.serve k me requests).1 = (Policy.run me.defaultDomain requests p).1 ∧
      Refines (f.serve k me requests).2 k (Policy.run me.defaultDomain requests p).2 := by
  induction requests generalizing f p with
  | nil => exact ⟨rfl, refines⟩
  | cons request rest ih =>
    -- The relation after the first request is the one from which the others start.
    obtain ⟨response, refinesNext⟩ := step_refines me refines request
    obtain ⟨responses, refinesLast⟩ := ih refinesNext
    refine ⟨?_, refinesLast⟩
    simp only [Fleet.serve, Policy.run]
    rw [response, responses]

/-- A new replica over an empty store refines the empty policy. -/
theorem refines_empty (capacity : Nat) :
    ∃ started, ({ channel := .opened capacity } : Fleet).addMember me = (.ok 0, started) ∧
      Refines started 0 .empty := by
  refine ⟨_, rfl, ?_⟩
  constructor
  case steady => exact ⟨⟨rfl, rfl⟩, rfl, rfl⟩
  case grants =>
    intro g
    change Relations.empty.Holds (.grant g) ↔ _
    simp [Policy.empty]
  case assignments =>
    intro a
    change Relations.empty.Holds (.assignment a) ↔ _
    simp [Policy.empty]
  case named => simp [Policy.empty]

end Step

/-- A replica started over an empty store answers every sequence of requests, blank and repeated
arguments included, exactly as the empty policy does, and the store ends up with exactly the facts
of the two sets. -/
theorem serve_eq_run (me : Profile) (capacity : Nat) (requests : List Request) :
    ∃ started, ({ channel := .opened capacity } : Fleet).addMember me = (.ok 0, started) ∧
      (started.serve 0 me requests).1 = (Policy.run me.defaultDomain requests .empty).1 ∧
      (∀ g, (started.serve 0 me requests).2.relations.Holds (.grant g) ↔
        g ∈ (Policy.run me.defaultDomain requests .empty).2.grants) ∧
      (∀ a, (started.serve 0 me requests).2.relations.Holds (.assignment a) ↔
        a ∈ (Policy.run me.defaultDomain requests .empty).2.assignments) := by
  obtain ⟨started, begun, refines⟩ := refines_empty me capacity
  obtain ⟨responses, refinesLast⟩ := serve_refines me refines requests
  exact ⟨started, begun, responses, refinesLast.grants, refinesLast.assignments⟩

end Entitlement
