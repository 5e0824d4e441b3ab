import Entitlement.SortedBy

/-!
# Facts

The two relations of the policy. A grant says that a role may perform an action on an object; an
assignment says that a user holds a role. Both name a domain. A fact is one row of either, and a
pattern selects rows of one relation by fixing some of their fields.
-/

namespace Entitlement

/-- The role may perform the action on the object; the domain is where the grant was recorded. -/
structure Grant where
  role : String
  domain : String
  object : String
  action : String
deriving DecidableEq, Repr, Inhabited

structure Assignment where
  user : String
  role : String
  domain : String
deriving DecidableEq, Repr, Inhabited

def Grant.key (g : Grant) : List String := [g.role, g.domain, g.object, g.action]

def Assignment.key (a : Assignment) : List String := [a.user, a.role, a.domain]

theorem Grant.key_injective {g h : Grant} (same : g.key = h.key) : g = h := by
  cases g; cases h; simp_all [Grant.key]

theorem Assignment.key_injective {a b : Assignment} (same : a.key = b.key) : a = b := by
  cases a; cases b; simp_all [Assignment.key]

inductive Fact where
  | grant (g : Grant)
  | assignment (a : Assignment)
deriving DecidableEq, Repr, Inhabited

namespace Fact

def grant? : Fact → Option Grant
  | grant g => some g
  | assignment _ => none

def assignment? : Fact → Option Assignment
  | grant _ => none
  | assignment a => some a

end Fact

/-- Every field that is given has to be equal. -/
structure GrantPattern where
  role : Option String := none
  domain : Option String := none
  object : Option String := none
  action : Option String := none
deriving DecidableEq, Repr, Inhabited

structure AssignmentPattern where
  user : Option String := none
  role : Option String := none
  domain : Option String := none
deriving DecidableEq, Repr, Inhabited

/-- A pattern of one relation; it never selects from the other. -/
inductive FactPattern where
  | grants (p : GrantPattern)
  | assignments (p : AssignmentPattern)
deriving DecidableEq, Repr, Inhabited

/-- An absent field agrees with every value. -/
def agrees (wanted : Option String) (value : String) : Bool :=
  match wanted with
  | none => true
  | some text => text == value

@[simp] theorem agrees_none (value : String) : agrees none value = true := rfl

@[simp] theorem agrees_some {text value : String} :
    agrees (some text) value = true ↔ text = value := by
  simp [agrees]

def GrantPattern.selects (p : GrantPattern) (g : Grant) : Bool :=
  agrees p.role g.role && agrees p.domain g.domain && agrees p.object g.object &&
    agrees p.action g.action

def AssignmentPattern.selects (p : AssignmentPattern) (a : Assignment) : Bool :=
  agrees p.user a.user && agrees p.role a.role && agrees p.domain a.domain

namespace FactPattern

def allGrants : FactPattern := .grants {}

def allAssignments : FactPattern := .assignments {}

def selects : FactPattern → Fact → Bool
  | grants p, .grant g => p.selects g
  | assignments p, .assignment a => p.selects a
  | _, _ => false

@[simp] theorem allGrants_selects (g : Grant) : allGrants.selects (.grant g) = true := rfl

@[simp] theorem allAssignments_selects (a : Assignment) :
    allAssignments.selects (.assignment a) = true := rfl

end FactPattern

inductive Change where
  | insert
  | delete
deriving DecidableEq, Repr, Inhabited

end Entitlement
