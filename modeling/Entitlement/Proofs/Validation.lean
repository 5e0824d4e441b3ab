import Entitlement.Authority

/-!
# Validation

Every operation checks what its request has to give, in a fixed order, before it does anything
else. The checks of an operation are one list of demands, and the first demand that is not met is
the one that the failure names.
-/

namespace Entitlement

/-- A text that must not be blank, or a list that must not be empty. -/
inductive Demand where
  | text (field value : String)
  | listed (field : String) (values : List String)
deriving DecidableEq, Repr

namespace Demand

def field : Demand → String
  | text field _ => field
  | listed field _ => field

def met : Demand → Bool
  | text _ value => !Text.isBlank value
  | listed _ values => !values.isEmpty

/-- The first demand that is not met is reported as missing. -/
def check (demands : List Demand) : Except Failure Unit :=
  match demands.find? fun d => !d.met with
  | none => .ok ()
  | some d => .error (.missing d.field)

theorem check_cons (d : Demand) (rest : List Demand) :
    check (d :: rest) = if d.met then check rest else .error (.missing d.field) := by
  cases given : d.met <;> simp [check, given]

theorem map_check_cons {α : Type} (next : Unit → α) (d : Demand) (rest : List Demand) :
    (check (d :: rest)).map next =
      if d.met then (check rest).map next else .error (.missing d.field) := by
  cases given : d.met <;> simp [check_cons, given, Except.map]

theorem check_eq_ok_iff {demands : List Demand} :
    check demands = .ok () ↔ ∀ d ∈ demands, d.met = true := by
  induction demands with
  | nil => simp [check]
  | cons d rest ih => cases given : d.met <;> simp [check_cons, given, ih]

end Demand

open Demand

theorem ne_empty_of_isBlank {value : String} (given : Text.isBlank value = false) :
    value ≠ "" := by
  rintro rfl
  rw [Text.isBlank_empty] at given
  cases given

/-- A text that a met check demands is not empty. -/
theorem ne_empty_of_check {demands : List Demand} {value : String} (field : String)
    (passed : check demands = .ok ()) (demanded : text field value ∈ demands) : value ≠ "" := by
  have given := check_eq_ok_iff.mp passed (text field value) demanded
  exact ne_empty_of_isBlank (by simpa [met] using given)

theorem required_bind {α : Type} (field value : String) (next : Unit → Except Failure α) :
    required field value >>= next =
      if (text field value).met then next () else .error (.missing field) := by
  cases blank : Text.isBlank value <;> simp [required, met, blank] <;> rfl

theorem requiredEach_eq (field : String) (values : List String) :
    requiredEach field values = check (values.map (text field)) := by
  induction values with
  | nil => rfl
  | cons value rest ih =>
    rw [requiredEach, required_bind, ih, List.map_cons, check_cons]
    rfl

/-! ### The demands of the operations -/

def assignmentDemands (user role domain : String) : List Demand :=
  [.text "user" user, .text "role" role, .text "domain" domain]

def grantDemands (role domain object : String) (actions : List String) : List Demand :=
  [.text "role" role, .text "domain" domain, .text "object" object, .listed "action" actions] ++
    actions.map (text "action")

def usersDemands (users : List String) (role domain : String) : List Demand :=
  [.text "role" role, .text "domain" domain, .listed "users" users] ++ users.map (text "user")

theorem checkedAssignment_eq (user role domain : String) :
    checkedAssignment user role domain =
      (check (assignmentDemands user role domain)).map fun _ => ⟨user, role, domain⟩ := by
  simp only [checkedAssignment, required_bind, assignmentDemands, map_check_cons]
  rfl

theorem checkedGrants_eq (role domain object : String) (actions : List String) :
    checkedGrants role domain object actions =
      (check (grantDemands role domain object actions)).map fun _ =>
        (distinct actions).map fun action => ⟨role, domain, object, action⟩ := by
  simp only [checkedGrants, required_bind, grantDemands, List.cons_append, List.nil_append,
    map_check_cons, requiredEach_eq]
  cases actions with
  | nil => rfl
  | cons action rest => cases check ((action :: rest).map (text "action")) <;> rfl

theorem checkedUsers_eq (users : List String) (role domain : String) :
    checkedUsers users role domain = check (usersDemands users role domain) := by
  simp only [checkedUsers, required_bind, usersDemands, List.cons_append, List.nil_append,
    check_cons, requiredEach_eq]
  cases users <;> rfl

end Entitlement
