import Mathlib.Data.Set.Defs
import Entitlement.Proofs.Agreement
import Entitlement.Proofs.Mutation

/-!
# Isolation

A mutation whose assignments all lie in one domain and concern only certain users is not noticed by
anybody else. Every rebuild copies the whole store, so the argument is about what two contents have
in common outside the scope of the mutation: each commit keeps it, whether it goes through, is
refused, leaves the index behind or takes something back.
-/

namespace Entitlement

open Fleet (Committed Serves handler)

/-- The users and the domain that a mutation is about. -/
structure Scope where
  users : Set String
  domain : String

namespace Scope

variable {s : Scope}

def Covers (s : Scope) (user domain : String) : Prop := user ∈ s.users ∧ domain = s.domain

def Admits (s : Scope) : Fact → Prop
  | .grant _ => False
  | .assignment a => s.Covers a.user a.domain

theorem not_covers {user domain : String} (outside : user ∉ s.users ∨ domain ≠ s.domain) :
    ¬ s.Covers user domain := by
  rintro ⟨inside, same⟩
  rcases outside with other | elsewhere
  · exact other inside
  · exact elsewhere same

end Scope

/-- Every fact that the mutation may insert or delete is an assignment in the scope. -/
def Mutation.Within (me : Profile) (m : Mutation) (s : Scope) : Prop :=
  ∀ change fact, m.Commits me change fact → s.Admits fact

/-! ### Agreeing outside a scope -/

namespace Relations

/-- The two contents differ at most in assignments in the scope. -/
def AgreeOutside (s : Scope) (r t : Relations) : Prop :=
  ∀ fact, ¬ s.Admits fact → (r.Holds fact ↔ t.Holds fact)

variable {s : Scope} {r t : Relations}

theorem AgreeOutside.refl (s : Scope) (r : Relations) : AgreeOutside s r r :=
  fun _ _ => Iff.rfl

theorem AgreeOutside.write (agree : AgreeOutside s r t) {fact : Fact} (admitted : s.Admits fact)
    (change : Change) : AgreeOutside s r (t.write change fact) := by
  intro other outside
  have apart : other ≠ fact := by
    rintro rfl
    exact outside admitted
  rw [holds_write_of_ne apart]
  exact agree other outside

theorem AgreeOutside.grants_eq (agree : AgreeOutside s r t) : r.grants = t.grants := by
  apply SortedBy.ext
  intro g
  exact agree (.grant g) id

end Relations

namespace Index

/-- The two indexes list the same grants and, outside the scope, the same assignments, both in the
same order. -/
structure AgreeOutside (s : Scope) (i j : Index) : Prop where
  grants : i.grants = j.grants
  assignments : ∀ p : Assignment → Bool, (∀ a, p a = true → ¬ s.Covers a.user a.domain) →
    i.assignments.filter p = j.assignments.filter p

variable {s : Scope} {i j : Index} {user domain : String}

/-- Contents that agree are listed alike, because an index lists its facts in ascending order. -/
theorem AgreeOutside.of_relations {r t : Relations} (agree : Relations.AgreeOutside s r t) :
    AgreeOutside s r.index t.index where
  grants := congrArg SortedBy.toList agree.grants_eq
  assignments p outside := by
    have filtered (u : Relations) := u.assignments.ascending.filter p
    have same : (⟨_, filtered r⟩ : SortedBy Assignment.key) = ⟨_, filtered t⟩ := by
      apply SortedBy.ext
      intro a
      simp only [SortedBy.mem_iff, List.mem_filter]
      apply and_congr_left
      intro selected
      exact agree (.assignment a) (outside a selected)
    exact congrArg SortedBy.toList same

theorem AgreeOutside.rolesOf_eq (agree : AgreeOutside s i j) (given : user ≠ "")
    (outside : ¬ s.Covers user domain) : i.rolesOf user domain = j.rolesOf user domain := by
  rw [rolesOf, rolesOf, agree.assignments]
  intro a selected
  rw [Bool.and_eq_true, named_iff_of_ne given, beq_iff_eq] at selected
  rw [← selected.1, selected.2]
  exact outside

theorem AgreeOutside.permissionsOf_eq (agree : AgreeOutside s i j) (given : user ≠ "")
    (outside : ¬ s.Covers user domain) :
    i.permissionsOf user domain = j.permissionsOf user domain := by
  simp only [permissionsOf, agree.rolesOf_eq given outside, grantsOf, agree.grants]

/-- The matcher looks at the assignments of one domain only. -/
theorem AgreeOutside.permits_eq (agree : AgreeOutside s i j) (elsewhere : domain ≠ s.domain)
    (subject object action : String) :
    i.permits subject domain object action = j.permits subject domain object action := by
  have same : i.assignments.filter (·.domain == domain) =
      j.assignments.filter (·.domain == domain) := by
    apply agree.assignments
    intro a selected
    rw [eq_of_beq selected]
    exact Scope.not_covers (.inr elsewhere)
  simp only [permits, matcherGrants, agree.grants, linked_congr same]

end Index

namespace Fleet

variable {k : Nat} {f g : Fleet} {s : Scope} {r : Relations}

/-- Outside the scope, the store and the index of replica `k` still are what `r` says. -/
structure Apart (s : Scope) (k : Nat) (r : Relations) (f : Fleet) : Prop where
  relations : Relations.AgreeOutside s r f.relations
  index : Index.AgreeOutside s r.index (f.indexOf k)

theorem Apart.of_current (s : Scope) (current : f.Current k) : Apart s k f.relations f where
  relations := .refl s _
  index := by
    rw [current]
    exact .of_relations (.refl s _)

/-- A commit in the scope changes nothing outside it, in the store or in a rebuilt index. -/
theorem Apart.commit (apart : Apart s k r f) {id : String} {change : Change} {fact : Fact}
    {result : Except Failure Unit} {done : List Deed} (admitted : s.Admits fact)
    (committed : Committed f k id change fact result done g) : Apart s k r g := by
  have written := apart.relations.write admitted change
  cases committed with
  | @refused g effect armed relations index =>
    constructor
    · rw [relations]
      split
      · exact written
      · exact apart.relations
    · rw [index]
      exact apart.index
  | done relations index =>
    rw [← relations] at written
    constructor
    · exact written
    · rw [index]
      exact .of_relations written
  | stale armed relations index =>
    constructor
    · rw [relations]
      exact written
    · rw [index]
      exact apart.index

theorem Apart.stable {me : Profile} {m : Mutation} (within : m.Within me s) :
    Stable k me.id (m.Commits me) (Apart s k r) where
  aside apart relations index := ⟨relations ▸ apart.relations, index ▸ apart.index⟩
  commit among apart committed := apart.commit (within _ _ among) committed

end Fleet

namespace Authority

open Fleet (Apart)

variable {k : Nat} {f g : Fleet} {s : Scope} {user domain : String}

/-! ### Questions from outside -/

/-- What an answer is matters only when the demands of the question are met. -/
theorem map_check_congr {α : Type} {demands : List Demand} {x y : α}
    (same : Demand.check demands = .ok () → x = y) :
    ((Demand.check demands).map fun _ => x) = (Demand.check demands).map fun _ => y := by
  cases check : Demand.check demands with
  | ok => rw [same check]
  | error cause => rfl

theorem run_roles_congr (agree : Index.AgreeOutside s (f.indexOf k) (g.indexOf k))
    (outside : ¬ s.Covers user domain) :
    (g.run k (roles user domain)).1 = (f.run k (roles user domain)).1 := by
  rw [run_roles, run_roles]
  apply map_check_congr
  intro check
  have given : user ≠ "" := ne_empty_of_check "user" check (by simp)
  exact (agree.rolesOf_eq given outside).symm

theorem run_permissions_congr (agree : Index.AgreeOutside s (f.indexOf k) (g.indexOf k))
    (outside : ¬ s.Covers user domain) :
    (g.run k (permissions user domain)).1 = (f.run k (permissions user domain)).1 := by
  rw [run_permissions, run_permissions]
  apply map_check_congr
  intro check
  have given : user ≠ "" := ne_empty_of_check "user" check (by simp)
  exact (agree.permissionsOf_eq given outside).symm

theorem run_allows_congr (agree : Index.AgreeOutside s (f.indexOf k) (g.indexOf k))
    (outside : ¬ s.Covers user domain) (object action : String) :
    (g.run k (allows user domain object action)).1 =
      (f.run k (allows user domain object action)).1 := by
  rw [run_allows, run_allows]
  apply map_check_congr
  intro check
  have given : user ≠ "" := ne_empty_of_check "user" check (by simp)
  rw [agree.permissionsOf_eq given outside]

/-- The replica's index is current when the mutation begins. Whatever faults strike it and whether
it goes through or not, nobody outside its scope gets another answer afterwards, no grant is added
or lost, and the matcher decides as before in every other domain. -/
theorem answers_outside_eq (me : Profile) {m : Mutation} (serves : f.Serves k)
    (current : f.Current k) (within : m.Within me s) :
    let after := (f.run k (m.attempt me)).2
    (∀ user domain, user ∉ s.users ∨ domain ≠ s.domain →
      (after.run k (roles user domain)).1 = (f.run k (roles user domain)).1 ∧
      (after.run k (permissions user domain)).1 = (f.run k (permissions user domain)).1 ∧
      ∀ object action, (after.run k (allows user domain object action)).1 =
        (f.run k (allows user domain object action)).1) ∧
    after.relations.grants = f.relations.grants ∧
    ∀ subject domain object action, domain ≠ s.domain →
      (after.indexOf k).permits subject domain object action =
        (f.indexOf k).permits subject domain object action := by
  intro after
  have apart : Apart s k f.relations after :=
    (Apart.stable within).retains_attempt f serves (.of_current s current)
  have agree : Index.AgreeOutside s (f.indexOf k) (after.indexOf k) := by
    rw [current]
    exact apart.index
  refine ⟨?_, apart.relations.grants_eq.symm, ?_⟩
  · intro user domain elsewhere
    have outside := Scope.not_covers elsewhere
    refine ⟨run_roles_congr agree outside, run_permissions_congr agree outside, ?_⟩
    exact run_allows_congr agree outside
  · intro subject domain object action elsewhere
    exact (agree.permits_eq elsewhere subject object action).symm

/-- Carol may read the documents, Alice the wiki, and the store refuses to insert Bob. -/
def shared : Fleet :=
  { holding (.ofFacts [.grant ⟨"viewer", "docs", "doc", "read"⟩,
      .assignment ⟨"carol", "viewer", "docs"⟩, .assignment ⟨"alice", "viewer", "wiki"⟩]) with
    storeFaults := [refusing { point := .insert, user := some "bob" } false] }

/-- Alice is inserted, Bob refused and Alice taken back; Carol is asked about in the same domain,
Alice in another. -/
theorem answers_outside_eq_rollback :
    let batch : Mutation := .assignAll ["alice", "bob"] "viewer" "docs"
    let after := (shared.run 0 (batch.attempt { id := "a" })).2
    (shared.run 0 (batch.attempt { id := "a" })).1 = .error (.store (.unavailable "down")) ∧
    (after.run 0 (permissions "carol" "docs")).1 =
      (shared.run 0 (permissions "carol" "docs")).1 ∧
    (after.run 0 (roles "alice" "wiki")).1 = (shared.run 0 (roles "alice" "wiki")).1 ∧
    after.relations.grants = shared.relations.grants ∧
    (after.indexOf 0).permits "alice" "wiki" "doc" "read" =
      (shared.indexOf 0).permits "alice" "wiki" "doc" "read" := by
  intro batch after
  have serves : shared.Serves 0 := ⟨rfl, rfl⟩
  have current : shared.Current 0 := rfl
  have within : batch.Within { id := "a" }
      ⟨fun user => user ∈ ["alice", "bob"], "docs"⟩ := by
    rintro change fact ⟨user, member, rfl⟩
    exact ⟨member, rfl⟩
  have carol : "carol" ∉ ["alice", "bob"] := by decide
  have wiki : "wiki" ≠ "docs" := by decide
  obtain ⟨answers, grants, permits⟩ := answers_outside_eq { id := "a" } serves current within
  refine ⟨Fleet.refusal_eq_some_iff.mp (by decide +kernel), ?_, ?_, grants, ?_⟩
  · exact (answers "carol" "docs" (.inl carol)).2.1
  · exact (answers "alice" "wiki" (.inr wiki)).1
  · exact permits "alice" "wiki" "doc" "read" wiki

end Authority

end Entitlement
