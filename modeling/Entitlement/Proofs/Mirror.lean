import Entitlement.Relations
import Entitlement.Index

/-!
# The index as a mirror of the store

A rebuild that is answered with the whole content gives the index that lists exactly that content,
in the order of the store. Looking a name up in it is then a question about the stored facts.
-/

namespace Entitlement

theorem SortedBy.nodup {α : Type} {key : α → List String} (s : SortedBy key) : s.toList.Nodup := by
  refine s.ascending.imp fun less same => ?_
  subst same
  exact List.lt_irrefl _ less

theorem distinct_eq_self {α : Type} [DecidableEq α] {l : List α} (nodup : l.Nodup) :
    distinct l = l := by
  induction l with
  | nil => rfl
  | cons a rest ih =>
    obtain ⟨absent, others⟩ := List.nodup_cons.mp nodup
    rw [distinct, ih others, List.filter_eq_self.mpr]
    intro b member
    have different : b ≠ a := fun same => absent (same ▸ member)
    simpa using different

namespace Relations

/-- The index that lists the stored content. -/
def index (r : Relations) : Index := ⟨r.grants.toList, r.assignments.toList⟩

theorem query_allGrants (r : Relations) :
    r.query .allGrants = r.grants.toList.map .grant := by
  simp only [FactPattern.allGrants, query]
  rw [List.filter_eq_self.mpr]
  intro g _
  rfl

theorem query_allAssignments (r : Relations) :
    r.query .allAssignments = r.assignments.toList.map .assignment := by
  simp only [FactPattern.allAssignments, query]
  rw [List.filter_eq_self.mpr]
  intro a _
  rfl

/-- The answers to the two queries for everything make the index of the content. -/
theorem ofAnswers_query (r : Relations) :
    Index.ofAnswers (r.query .allGrants) (r.query .allAssignments) = r.index := by
  have grants : (r.query .allGrants).filterMap Fact.grant? = r.grants.toList := by
    rw [query_allGrants, List.filterMap_map]
    exact List.filterMap_some
  have assignments : (r.query .allAssignments).filterMap Fact.assignment? =
      r.assignments.toList := by
    rw [query_allAssignments, List.filterMap_map]
    exact List.filterMap_some
  rw [Index.ofAnswers, grants, assignments, distinct_eq_self r.grants.nodup,
    distinct_eq_self r.assignments.nodup]
  rfl

end Relations

namespace Index

theorem named_iff {searched name : String} :
    named searched name = true ↔ searched = "" ∨ searched = name := by
  simp [named]

theorem named_iff_of_ne {searched name : String} (given : searched ≠ "") :
    named searched name = true ↔ searched = name := by
  simp [named_iff, given]

theorem mem_rolesOf {i : Index} {user role domain : String} (given : user ≠ "") :
    role ∈ i.rolesOf user domain ↔ ⟨user, role, domain⟩ ∈ i.assignments := by
  simp only [rolesOf, mem_sortedNames, List.mem_map, List.mem_filter, Bool.and_eq_true,
    named_iff_of_ne given, beq_iff_eq]
  constructor
  · rintro ⟨⟨u, r, d⟩, ⟨member, rfl, rfl⟩, rfl⟩
    exact member
  · intro member
    exact ⟨_, ⟨member, rfl, rfl⟩, rfl⟩

theorem mem_holdersOf {i : Index} {user role domain : String} (given : role ≠ "") :
    user ∈ i.holdersOf role domain ↔ ⟨user, role, domain⟩ ∈ i.assignments := by
  simp only [holdersOf, mem_sortedNames, List.mem_map, List.mem_filter, Bool.and_eq_true,
    named_iff_of_ne given, beq_iff_eq]
  constructor
  · rintro ⟨⟨u, r, d⟩, ⟨member, rfl, rfl⟩, rfl⟩
    exact member
  · intro member
    exact ⟨_, ⟨member, rfl, rfl⟩, rfl⟩

theorem mem_domainsOf {i : Index} {user domain : String} (given : user ≠ "") :
    domain ∈ i.domainsOf user ↔ ∃ role, ⟨user, role, domain⟩ ∈ i.assignments := by
  simp only [domainsOf, mem_sortedNames, List.mem_map, List.mem_filter, named_iff_of_ne given]
  constructor
  · rintro ⟨⟨u, r, d⟩, ⟨member, rfl⟩, rfl⟩
    exact ⟨r, member⟩
  · rintro ⟨role, member⟩
    exact ⟨_, ⟨member, rfl⟩, rfl⟩

end Index

end Entitlement
