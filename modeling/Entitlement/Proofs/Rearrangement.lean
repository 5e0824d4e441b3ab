import Entitlement.Proofs.Agreement
import Mathlib.Data.List.Perm.Basic

/-!
# The order of the answers

An index is made of the answers to two queries and keeps their order. What it is asked depends only
on which grants and which assignments the answers name, however often, in whatever order and with
whatever else among them: names are listed in an order of their own and a check asks whether
something is listed. Lists of grants and of permissions follow the order of the index and hold the
same entries equally often.
-/

namespace Entitlement

variable {σ τ : Type}

/-! ### Lists with the same members -/

theorem distinct_perm {α : Type} [DecidableEq α] {l m : List α} (same : ∀ a, a ∈ l ↔ a ∈ m) :
    (distinct l).Perm (distinct m) := by
  refine (List.perm_ext_iff_of_nodup (distinct_nodup l) (distinct_nodup m)).mpr fun a => ?_
  rw [mem_distinct, mem_distinct, same]

theorem sortedNames_congr {names others : List String}
    (same : ∀ name, name ∈ names ↔ name ∈ others) : sortedNames names = sortedNames others := by
  have sets : (SortedBy.ofList names : SortedBy nameKey) = SortedBy.ofList others :=
    SortedBy.ext fun name => mem_sortedNames.trans ((same name).trans mem_sortedNames.symm)
  exact congrArg SortedBy.toList sets

namespace Fact

theorem mem_filterMap_grant? {g : Grant} {facts : List Fact} :
    g ∈ facts.filterMap grant? ↔ .grant g ∈ facts := by
  rw [List.mem_filterMap]
  constructor
  · rintro ⟨_ | _, member, same⟩ <;> cases same
    exact member
  · exact fun member => ⟨_, member, rfl⟩

theorem mem_filterMap_assignment? {a : Assignment} {facts : List Fact} :
    a ∈ facts.filterMap assignment? ↔ .assignment a ∈ facts := by
  rw [List.mem_filterMap]
  constructor
  · rintro ⟨_ | _, member, same⟩ <;> cases same
    exact member
  · exact fun member => ⟨_, member, rfl⟩

end Fact

/-! ### Indexes that list the same facts -/

namespace Index

/-- The two indexes list the same facts, each in an order of its own. -/
structure Alike (i j : Index) : Prop where
  grants : i.grants.Perm j.grants
  assignments : i.assignments.Perm j.assignments

/-- Repetitions and facts of the wrong relation leave no trace. -/
theorem alike_ofAnswers {grants assignments otherGrants otherAssignments : List Fact}
    (sameGrants : ∀ g, .grant g ∈ grants ↔ .grant g ∈ otherGrants)
    (sameAssignments : ∀ a, .assignment a ∈ assignments ↔ .assignment a ∈ otherAssignments) :
    Alike (ofAnswers grants assignments) (ofAnswers otherGrants otherAssignments) where
  grants := by
    refine distinct_perm fun g => ?_
    rw [Fact.mem_filterMap_grant?, Fact.mem_filterMap_grant?, sameGrants]
  assignments := by
    refine distinct_perm fun a => ?_
    rw [Fact.mem_filterMap_assignment?, Fact.mem_filterMap_assignment?, sameAssignments]

namespace Alike

variable {i j : Index} (alike : i.Alike j)

include alike

/-- Names that are read off the selected assignments are listed alike. -/
theorem names_eq (selects : Assignment → Bool) (name : Assignment → String) :
    sortedNames ((i.assignments.filter selects).map name) =
      sortedNames ((j.assignments.filter selects).map name) :=
  sortedNames_congr fun _ => ((alike.assignments.filter selects).map name).mem_iff

theorem rolesOf_eq (user domain : String) : i.rolesOf user domain = j.rolesOf user domain :=
  alike.names_eq _ _

theorem holdersOf_eq (role domain : String) : i.holdersOf role domain = j.holdersOf role domain :=
  alike.names_eq _ _

theorem domainsOf_eq (user : String) : i.domainsOf user = j.domainsOf user :=
  alike.names_eq _ _

theorem grantsOf_perm (role : String) (domain : Option String) :
    (i.grantsOf role domain).Perm (j.grantsOf role domain) :=
  alike.grants.filter _

/-- The roles come in the same order, so only the grants of each role may change places. -/
theorem permissionsOf_perm (user domain : String) :
    (i.permissionsOf user domain).Perm (j.permissionsOf user domain) := by
  rw [permissionsOf, permissionsOf, alike.rolesOf_eq]
  exact List.Perm.flatMap_left _ fun role _ => (alike.grantsOf_perm role none).map _

end Alike

end Index

/-! ### Building an index -/

/-- In the state `s` the store answers the two queries of a rebuild with these lists. -/
def Handler.Tells (h : Handler σ) (s : σ) (grants assignments : List Fact) : Prop :=
  (h (.query .allGrants) s).1 = .ok grants ∧
    (h (.query .allAssignments) (h (.query .allGrants) s).2).1 = .ok assignments

theorem Replica.run_buildIndex {h : Handler σ} {s : σ} {grants assignments : List Fact}
    (tells : h.Tells s grants assignments) :
    (buildIndex.run.run h s).1 = .ok (Index.ofAnswers grants assignments) := by
  obtain ⟨first, second⟩ := tells
  simp [buildIndex, Attempt.ofStore, Call.perform, Except.mapError, first, second]

/-! ### Main result -/

namespace Authority

/-- Both fail for one cause, or both list the same entries equally often. -/
def SameUpToOrder {α : Type} : Except Failure (List α) → Except Failure (List α) → Prop
  | .ok l, .ok m => l.Perm m
  | .error cause, .error other => cause = other
  | _, _ => False

/-- Two stores answer the queries for everything with lists that name the same grants and the same
assignments. The indexes built from them list the same roles, holders and domains, in the same
order, and the grants of a role up to order. Replicas that answer from them decide alike whether
something is allowed, and list the same permissions up to order. -/
theorem answers_of_same_facts {h : Handler σ} {h' : Handler τ} {s : σ} {t : τ}
    {grants assignments otherGrants otherAssignments : List Fact}
    (tells : h.Tells s grants assignments) (tells' : h'.Tells t otherGrants otherAssignments)
    (sameGrants : ∀ g, .grant g ∈ grants ↔ .grant g ∈ otherGrants)
    (sameAssignments : ∀ a, .assignment a ∈ assignments ↔ .assignment a ∈ otherAssignments) :
    ∃ i j, (Replica.buildIndex.run.run h s).1 = .ok i ∧
      (Replica.buildIndex.run.run h' t).1 = .ok j ∧
      (∀ user domain, i.rolesOf user domain = j.rolesOf user domain) ∧
      (∀ role domain, i.holdersOf role domain = j.holdersOf role domain) ∧
      (∀ user, i.domainsOf user = j.domainsOf user) ∧
      (∀ role domain, (i.grantsOf role domain).Perm (j.grantsOf role domain)) ∧
      ∀ (f g : Fleet) (k l : Nat), f.indexOf k = i → g.indexOf l = j →
        (∀ user domain object action, (f.run k (allows user domain object action)).1 =
          (g.run l (allows user domain object action)).1) ∧
        ∀ user domain, SameUpToOrder (f.run k (permissions user domain)).1
          (g.run l (permissions user domain)).1 := by
  have alike := Index.alike_ofAnswers sameGrants sameAssignments
  refine ⟨_, _, Replica.run_buildIndex tells, Replica.run_buildIndex tells', alike.rolesOf_eq,
    alike.holdersOf_eq, alike.domainsOf_eq, alike.grantsOf_perm, ?_⟩
  intro f g k l first second
  constructor
  · intro user domain object action
    have listed := alike.permissionsOf_perm user domain
    rw [run_allows, run_allows, first, second, listed.contains_eq]
  · intro user domain
    rw [run_permissions, run_permissions, first, second]
    cases Demand.check [.text "user" user, .text "domain" domain] with
    | error cause => rfl
    | ok => exact alike.permissionsOf_perm user domain

def serving (i : Index) : Fleet := { members := [some ⟨{ id := "a" }, i⟩] }

/-- The second store answers in another order, with repetitions and with facts of the wrong
relation. The indexes differ, and Alice has the same permissions. -/
theorem answers_of_same_facts_shuffled :
    let read : Fact := .grant ⟨"reader", "docs", "doc", "read"⟩
    let list : Fact := .grant ⟨"reader", "docs", "doc", "list"⟩
    let held : Fact := .assignment ⟨"alice", "reader", "docs"⟩
    let f : Fleet := { rigged := some ([read, list], [held]) }
    let g : Fleet := { rigged := some ([list, held, read, list], [held, read, held]) }
    ∃ i j, (Replica.buildIndex.run.run (Fleet.handler 0) f).1 = .ok i ∧
      (Replica.buildIndex.run.run (Fleet.handler 0) g).1 = .ok j ∧ i ≠ j ∧
      i.rolesOf "alice" "docs" = j.rolesOf "alice" "docs" ∧
      SameUpToOrder ((serving i).run 0 (permissions "alice" "docs")).1
        ((serving j).run 0 (permissions "alice" "docs")).1 := by
  intro read list held f g
  have tells : Handler.Tells (Fleet.handler 0) f [read, list] [held] := ⟨rfl, rfl⟩
  have tells' : Handler.Tells (Fleet.handler 0) g [list, held, read, list] [held, read, held] :=
    ⟨rfl, rfl⟩
  have sameGrants (x : Grant) : .grant x ∈ [read, list] ↔ .grant x ∈ [list, held, read, list] := by
    simp [held, or_comm]
  have sameAssignments (a : Assignment) : .assignment a ∈ [held] ↔
      .assignment a ∈ [held, read, held] := by
    simp [read]
  obtain ⟨i, j, built, built', roles, -, -, -, served⟩ :=
    answers_of_same_facts tells tells' sameGrants sameAssignments
  refine ⟨i, j, built, built', ?_, roles "alice" "docs", ?_⟩
  · rintro rfl
    have same := congrArg Except.toOption (built.trans built'.symm)
    revert same
    decide +kernel
  · exact (served (serving i) (serving j) 0 0 rfl rfl).2 "alice" "docs"

end Authority

end Entitlement
