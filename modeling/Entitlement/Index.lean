import Entitlement.Fact

/-!
# The index

The copy of both relations that questions are answered from. It keeps the order in which the store
answered, drops later repetitions and facts of the wrong relation. A look-up by an empty name is
not restricted by that name.
-/

namespace Entitlement

/-- Keeps the first occurrence of every element. -/
def distinct {α : Type} [DecidableEq α] : List α → List α
  | [] => []
  | a :: rest => a :: (distinct rest).filter (· ≠ a)

@[simp] theorem mem_distinct {α : Type} [DecidableEq α] {a : α} {l : List α} :
    a ∈ distinct l ↔ a ∈ l := by
  induction l with
  | nil => rfl
  | cons b rest ih => by_cases same : a = b <;> simp [distinct, ih, same]

theorem distinct_nodup {α : Type} [DecidableEq α] (l : List α) : (distinct l).Nodup := by
  induction l with
  | nil => exact .nil
  | cons b rest ih => exact List.nodup_cons.mpr ⟨by simp, ih.filter _⟩

structure Index where
  grants : List Grant
  assignments : List Assignment
deriving DecidableEq, Repr, Inhabited

namespace Index

def empty : Index := ⟨[], []⟩

/-- The index made from the answers to the two queries for everything. -/
def ofAnswers (grants assignments : List Fact) : Index :=
  ⟨distinct (grants.filterMap Fact.grant?), distinct (assignments.filterMap Fact.assignment?)⟩

/-- An empty searched name matches every name. -/
def named (searched name : String) : Bool := searched.isEmpty || searched == name

/-- The roles of a user in a domain, ascending. Only direct assignments count. -/
def rolesOf (i : Index) (user domain : String) : List String :=
  sortedNames
    ((i.assignments.filter fun a => named user a.user && a.domain == domain).map (·.role))

/-- The grants of a role, in the order of the index; no domain stands for any domain. -/
def grantsOf (i : Index) (role : String) (domain : Option String) : List Grant :=
  i.grants.filter fun g => named role g.role && agrees domain g.domain

def holdersOf (i : Index) (role domain : String) : List String :=
  sortedNames
    ((i.assignments.filter fun a => named role a.role && a.domain == domain).map (·.user))

def domainsOf (i : Index) (user : String) : List String :=
  sortedNames ((i.assignments.filter fun a => named user a.user).map (·.domain))

end Index

end Entitlement
