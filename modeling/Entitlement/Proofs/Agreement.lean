import Entitlement.Proofs.Commit
import Entitlement.Proofs.Link
import Entitlement.Proofs.Query

/-!
# The two checks

Whether a user may do something can be asked of the permission keys of the user's roles and of the
matcher. The keys count direct assignments only and cannot tell where the object ends; the matcher
follows chains, links every name to itself and compares object and action apart. Where these
differences meet a policy, the answers differ.
-/

namespace Entitlement

namespace Relations

variable {r : Relations} {user domain object action : String}

/-- The key check counts the grant for the user: its role, or the empty role, is assigned. -/
def Confers (r : Relations) (user domain : String) (g : Grant) : Prop :=
  r.Holds (.grant g) ∧
    ∃ role, r.Holds (.assignment ⟨user, role, domain⟩) ∧ (role = "" ∨ role = g.role)

/-- The matcher counts the grant for the user. -/
def Matches (r : Relations) (user domain : String) (g : Grant) : Prop :=
  r.Holds (.grant g) ∧ r.index.linked user g.role domain = true

theorem mem_permissionsOf {key : String} (given : user ≠ "") :
    key ∈ r.index.permissionsOf user domain ↔
      ∃ g, r.Confers user domain g ∧ g.permission = key := by
  simp only [Index.permissionsOf, List.mem_flatMap, Index.mem_rolesOf given, Index.grantsOf,
    List.mem_map, List.mem_filter, Bool.and_eq_true, Index.named_iff, agrees_none, and_true]
  constructor
  · rintro ⟨role, assigned, g, ⟨stored, named⟩, same⟩
    exact ⟨g, ⟨stored, role, assigned, named⟩, same⟩
  · rintro ⟨g, ⟨stored, role, assigned, named⟩, same⟩
    exact ⟨role, assigned, g, ⟨stored, named⟩, same⟩

theorem permits_iff (given : object ≠ "") :
    r.index.permits user domain object action = true ↔
      ∃ g, r.Matches user domain g ∧ g.object = object ∧ g.action = action := by
  simp only [Index.permits, List.any_eq_true, Bool.and_eq_true, beq_iff_eq]
  constructor
  · rintro ⟨g, member, ⟨linked, sameObject⟩, sameAction⟩
    have stored : g ∈ r.index.grants := by
      unfold Index.matcherGrants at member
      split at member
      -- The blank grant that stands for an empty policy has no object.
      · rw [List.mem_singleton.mp member] at sameObject
        exact absurd sameObject given
      · exact member
    exact ⟨g, ⟨stored, linked⟩, sameObject.symm, sameAction.symm⟩
  · rintro ⟨g, ⟨stored, linked⟩, rfl, rfl⟩
    refine ⟨g, ?_, ⟨linked, rfl⟩, rfl⟩
    unfold Index.matcherGrants
    split
    next none =>
      have inIndex : g ∈ r.index.grants := stored
      rw [List.isEmpty_iff.mp none] at inIndex
      cases inIndex
    · exact stored

/-- The checks agree when a grant that the matcher counts although its role is not assigned is
matched by one that the key check counts, and when a grant that the key check counts under another
object and action, or under the empty role, is matched by one that the matcher counts. -/
theorem agree_iff (userGiven : user ≠ "") (objectGiven : object ≠ "") :
    (r.index.permissionsOf user domain).contains (permissionKey object action) =
        r.index.permits user domain object action ↔
      (∀ g, r.Matches user domain g → g.object = object → g.action = action →
        ¬ r.Holds (.assignment ⟨user, g.role, domain⟩) →
        ∃ h, r.Confers user domain h ∧ h.permission = permissionKey object action) ∧
      (∀ h, r.Confers user domain h → h.permission = permissionKey object action →
        ¬ (h.object = object ∧ h.action = action ∧
          r.Holds (.assignment ⟨user, h.role, domain⟩)) →
        ∃ g, r.Matches user domain g ∧ g.object = object ∧ g.action = action) := by
  rw [Bool.eq_iff_iff, List.contains_iff_mem, mem_permissionsOf userGiven,
    permits_iff objectGiven]
  constructor
  · rintro agree
    refine ⟨fun g isMatch sameObject sameAction _ => ?_, fun h confers same _ => ?_⟩
    · exact agree.mpr ⟨g, isMatch, sameObject, sameAction⟩
    · exact agree.mp ⟨h, confers, same⟩
  · rintro ⟨linkedOnly, keyedOnly⟩
    constructor
    · rintro ⟨h, confers, same⟩
      by_cases direct : h.object = object ∧ h.action = action ∧
          r.Holds (.assignment ⟨user, h.role, domain⟩)
      -- The matcher counts a grant whose role is assigned.
      · obtain ⟨sameObject, sameAction, assigned⟩ := direct
        exact ⟨h, ⟨confers.1, Index.linked_of_assigned assigned⟩, sameObject, sameAction⟩
      · exact keyedOnly h confers same direct
    · rintro ⟨g, isMatch, sameObject, sameAction⟩
      by_cases assigned : r.Holds (.assignment ⟨user, g.role, domain⟩)
      -- So does the key check.
      · refine ⟨g, ⟨isMatch.1, g.role, assigned, .inr rfl⟩, ?_⟩
        rw [Grant.permission, sameObject, sameAction]
      · exact linkedOnly g isMatch sameObject sameAction assigned

/-! ### Policies on which the checks agree -/

/-- A policy without the features that tell the two checks apart, as far as a request goes. -/
structure Plain (r : Relations) (user domain action : String) : Prop where
  /-- No role of the domain is a user of the domain. -/
  flat : ∀ a b, r.Holds (.assignment a) → r.Holds (.assignment b) → a.domain = domain →
    b.domain = domain → b.user ≠ a.role
  /-- The user does not have the name of a role that something is granted to. -/
  apart : ∀ g, r.Holds (.grant g) → g.role ≠ user
  named : ∀ a, r.Holds (.assignment a) → a.role ≠ ""
  /-- Neither the requested action nor a granted one holds the separator. -/
  unsplit : keySeparator ∉ action.toList
  unsplitGrants : ∀ g, r.Holds (.grant g) → keySeparator ∉ g.action.toList

theorem Plain.assigned_of_linked (plain : r.Plain user domain action) {g : Grant}
    (isMatch : r.Matches user domain g) : r.Holds (.assignment ⟨user, g.role, domain⟩) := by
  obtain ⟨stored, linked⟩ := isMatch
  obtain ⟨n, chain⟩ := Index.chain_of_linked linked
  cases chain with
  | here => exact absurd rfl (plain.apart g stored)
  | up chain last =>
    -- A second assignment would make a role a user.
    cases chain with
    | here => exact last
    | up _ before => exact absurd rfl (plain.flat _ _ before last rfl rfl)

theorem Plain.agree (plain : r.Plain user domain action) (userGiven : user ≠ "")
    (objectGiven : object ≠ "") :
    (r.index.permissionsOf user domain).contains (permissionKey object action) =
      r.index.permits user domain object action := by
  rw [agree_iff userGiven objectGiven]
  constructor
  -- Every link is an assignment.
  · intro g isMatch _ _ unassigned
    exact absurd (plain.assigned_of_linked isMatch) unassigned
  -- Equal keys come from equal objects and actions.
  · rintro h ⟨stored, role, assigned, named⟩ same apart
    obtain ⟨sameObject, sameAction⟩ :=
      permissionKey_injective (plain.unsplitGrants h stored) plain.unsplit same
    have sameRole : role = h.role := named.resolve_left (plain.named _ assigned)
    exact absurd ⟨sameObject, sameAction, sameRole ▸ assigned⟩ apart

end Relations

namespace Authority

variable {k : Nat} {f : Fleet} {user domain object action : String}

/-- Over a current index both checks answer, and they answer alike unless one of two things
happens. A grant of exactly the object and the action is linked to the user by a name or by a
longer chain only, and no grant with the same key is held directly. Or a grant with the same key is
held directly, but it splits the key elsewhere or comes with the empty role, and no grant of exactly
the object and the action is linked to the user. -/
theorem allows_eq_permits_iff (current : f.Current k) (userGiven : Text.isBlank user = false)
    (domainGiven : Text.isBlank domain = false) (objectGiven : Text.isBlank object = false)
    (actionGiven : Text.isBlank action = false) :
    ∃ answer, f.run k (allows user domain object action) = (.ok answer, f) ∧
      (answer = (f.indexOf k).permits user domain object action ↔
        (∀ g, f.relations.Matches user domain g → g.object = object → g.action = action →
          ¬ f.relations.Holds (.assignment ⟨user, g.role, domain⟩) →
          ∃ h, f.relations.Confers user domain h ∧
            h.permission = permissionKey object action) ∧
        (∀ h, f.relations.Confers user domain h → h.permission = permissionKey object action →
          ¬ (h.object = object ∧ h.action = action ∧
            f.relations.Holds (.assignment ⟨user, h.role, domain⟩)) →
          ∃ g, f.relations.Matches user domain g ∧ g.object = object ∧ g.action = action)) := by
  have met : Demand.check [.text "object" object, .text "action" action, .text "user" user,
      .text "domain" domain] = .ok () := by
    simp [Demand.check_cons, Demand.met, userGiven, domainGiven, objectGiven, actionGiven]
    rfl
  refine ⟨((f.indexOf k).permissionsOf user domain).contains (permissionKey object action), ?_, ?_⟩
  · rw [run_allows, met]
    rfl
  · rw [current]
    exact Relations.agree_iff (ne_empty_of_isBlank userGiven) (ne_empty_of_isBlank objectGiven)

def holding (r : Relations) : Fleet :=
  { relations := r, members := [some ⟨{ id := "a" }, r.index⟩] }

/-- Alice may read a document as its reader, and both checks say so. -/
theorem allows_eq_permits_reader :
    let f := holding (.ofFacts [.grant ⟨"reader", "docs", "doc", "read"⟩,
      .assignment ⟨"alice", "reader", "docs"⟩])
    ∃ answer, f.run 0 (allows "alice" "docs" "doc" "read") = (.ok answer, f) ∧
      answer = (f.indexOf 0).permits "alice" "docs" "doc" "read" := by
  intro f
  have stored (g : Grant) (holds : f.relations.Holds (.grant g)) :
      g = ⟨"reader", "docs", "doc", "read"⟩ := by
    simpa [f, holding, Relations.holds_ofFacts] using holds
  have assigned : f.relations.Holds (.assignment ⟨"alice", "reader", "docs"⟩) := by decide
  have current : f.Current 0 := rfl
  have userGiven : Text.isBlank "alice" = false := by decide
  have domainGiven : Text.isBlank "docs" = false := by decide
  have objectGiven : Text.isBlank "doc" = false := by decide
  have actionGiven : Text.isBlank "read" = false := by decide
  obtain ⟨answer, run, agree⟩ :=
    allows_eq_permits_iff current userGiven domainGiven objectGiven actionGiven
  refine ⟨answer, run, agree.mpr ⟨?_, ?_⟩⟩
  · rintro g ⟨holds, -⟩ - - unassigned
    rw [stored g holds] at unassigned
    exact absurd assigned unassigned
  · rintro h ⟨holds, -⟩ - apart
    rw [stored h holds] at apart
    exact absurd ⟨rfl, rfl, assigned⟩ apart

/-- The matcher follows a chain that the key check does not, and the key check takes a grant of
another object and action for the requested one. -/
theorem allows_ne_permits :
    let chained := holding (.ofFacts [.grant ⟨"admin", "docs", "doc", "read"⟩,
      .assignment ⟨"alice", "editor", "docs"⟩, .assignment ⟨"editor", "admin", "docs"⟩])
    let split := holding (.ofFacts [.grant ⟨"reader", "docs", "doc", "old#read"⟩,
      .assignment ⟨"alice", "reader", "docs"⟩])
    chained.Current 0 ∧
    (chained.run 0 (allows "alice" "docs" "doc" "read")).1.toOption = some false ∧
    (chained.indexOf 0).permits "alice" "docs" "doc" "read" = true ∧
    split.Current 0 ∧
    (split.run 0 (allows "alice" "docs" "doc#old" "read")).1.toOption = some true ∧
    (split.indexOf 0).permits "alice" "docs" "doc#old" "read" = false := by
  refine ⟨rfl, ?_, ?_, rfl, ?_, ?_⟩ <;> decide +kernel

end Authority

end Entitlement
