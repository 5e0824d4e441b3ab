import Entitlement.Fact

/-!
# Relations

The stored content: one set of grants and one set of assignments. Writing is idempotent, and a
query answers with the selected facts in ascending order.
-/

namespace Entitlement

structure Relations where
  grants : SortedBy Grant.key
  assignments : SortedBy Assignment.key
deriving DecidableEq, Inhabited

namespace Relations

def empty : Relations := ⟨.empty, .empty⟩

def Holds (r : Relations) : Fact → Prop
  | .grant g => g ∈ r.grants
  | .assignment a => a ∈ r.assignments

instance (r : Relations) (fact : Fact) : Decidable (r.Holds fact) :=
  match fact with
  | .grant g => inferInstanceAs (Decidable (g ∈ r.grants.toList))
  | .assignment a => inferInstanceAs (Decidable (a ∈ r.assignments.toList))

def insert (fact : Fact) (r : Relations) : Relations :=
  match fact with
  | .grant g => { r with grants := r.grants.insert g }
  | .assignment a => { r with assignments := r.assignments.insert a }

def delete (fact : Fact) (r : Relations) : Relations :=
  match fact with
  | .grant g => { r with grants := r.grants.erase g }
  | .assignment a => { r with assignments := r.assignments.erase a }

def write (change : Change) (fact : Fact) (r : Relations) : Relations :=
  match change with
  | .insert => r.insert fact
  | .delete => r.delete fact

def ofFacts (facts : List Fact) : Relations :=
  facts.foldl (fun r fact => r.insert fact) empty

def query (pattern : FactPattern) (r : Relations) : List Fact :=
  match pattern with
  | .grants p => (r.grants.toList.filter p.selects).map .grant
  | .assignments p => (r.assignments.toList.filter p.selects).map .assignment

def size (r : Relations) : Nat := r.grants.size + r.assignments.size

@[ext] theorem ext_of_grants_of_assignments {r s : Relations} (grants : r.grants = s.grants)
    (assignments : r.assignments = s.assignments) : r = s := by
  cases r; cases s; simp_all

theorem ext_holds {r s : Relations} (same : ∀ fact, r.Holds fact ↔ s.Holds fact) : r = s :=
  ext_of_grants_of_assignments (SortedBy.ext fun g => same (.grant g))
    (SortedBy.ext fun a => same (.assignment a))

@[simp] theorem holds_empty (fact : Fact) : ¬ empty.Holds fact := by
  cases fact <;> simp [Holds, empty]

theorem holds_insert {r : Relations} {fact other : Fact} :
    (r.insert fact).Holds other ↔ other = fact ∨ r.Holds other := by
  cases fact <;> cases other <;>
    simp [Holds, insert, SortedBy.mem_insert Grant.key_injective,
      SortedBy.mem_insert Assignment.key_injective]

theorem holds_delete {r : Relations} {fact other : Fact} :
    (r.delete fact).Holds other ↔ other ≠ fact ∧ r.Holds other := by
  have grantKey (g h : Grant) : g.key = h.key ↔ g = h :=
    ⟨Grant.key_injective, fun same => by rw [same]⟩
  have assignmentKey (a b : Assignment) : a.key = b.key ↔ a = b :=
    ⟨Assignment.key_injective, fun same => by rw [same]⟩
  cases fact <;> cases other <;>
    simp [Holds, delete, SortedBy.mem_erase, grantKey, assignmentKey, and_comm]

theorem holds_ofFacts {facts : List Fact} {fact : Fact} :
    (ofFacts facts).Holds fact ↔ fact ∈ facts := by
  have general (r : Relations) :
      (facts.foldl (fun r fact => r.insert fact) r).Holds fact ↔ fact ∈ facts ∨ r.Holds fact := by
    induction facts generalizing r with
    | nil => simp
    | cons first rest ih => rw [List.foldl_cons, ih, holds_insert, List.mem_cons]; grind
  simpa [ofFacts] using general empty

theorem mem_query {r : Relations} {pattern : FactPattern} {fact : Fact} :
    fact ∈ r.query pattern ↔ pattern.selects fact = true ∧ r.Holds fact := by
  cases pattern <;> cases fact <;>
    simp [query, FactPattern.selects, Holds, SortedBy.mem_iff, and_comm]

end Relations

end Entitlement
