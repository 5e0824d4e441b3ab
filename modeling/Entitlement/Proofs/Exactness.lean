import Entitlement.Proofs.Agreement
import Entitlement.Proofs.Attainable

/-!
# Who is given what

A user should be given exactly what the stored grants of the user's roles say. Two things blur
this. The key of a permission does not tell where the object ends, so a grant also answers for
every other way to cut its key in two. And an assignment of the empty role, which no request
stores, looks the grants up without restriction.
-/

namespace Entitlement

/-! ### Keys -/

theorem permissionKey_assoc (first second third : String) :
    permissionKey (permissionKey first second) third =
      permissionKey first (permissionKey second third) := by
  simp only [permissionKey, String.append_assoc]

/-- From the first pair to the second, a separator passes from the action to the object: the first
action begins with the text and the separator by which the second object is longer. -/
def Shifted (object action otherObject otherAction : String) : Prop :=
  ∃ middle, otherObject = permissionKey object middle ∧ action = permissionKey middle otherAction

theorem Shifted.of_toList {object action otherObject otherAction : String} {middle : List Char}
    (longer : otherObject.toList = object.toList ++ keySeparator :: middle)
    (cut : action.toList = middle ++ keySeparator :: otherAction.toList) :
    Shifted object action otherObject otherAction := by
  refine ⟨String.ofList middle, ?_, ?_⟩ <;> rw [← String.toList_inj, toList_permissionKey]
  · simpa using longer
  · simpa using cut

/-- Two pairs have one key just if they are equal or a separator passes between them. -/
theorem permissionKey_eq_iff {object action otherObject otherAction : String} :
    permissionKey object action = permissionKey otherObject otherAction ↔
      (object = otherObject ∧ action = otherAction) ∨
        Shifted object action otherObject otherAction ∨
        Shifted otherObject otherAction object action := by
  constructor
  · intro same
    have lists := congrArg String.toList same
    rw [toList_permissionKey, toList_permissionKey, List.append_eq_append_iff] at lists
    -- One of the objects goes on where the other has ended.
    rcases lists with ⟨more, longer, rest⟩ | ⟨more, longer, rest⟩ <;>
      rcases List.cons_eq_append_iff.mp rest with ⟨rfl, equal⟩ | ⟨middle, rfl, cut⟩
    · simp only [List.append_nil, String.toList_inj, List.cons.injEq, true_and] at longer equal
      exact .inl ⟨longer.symm, equal.symm⟩
    · exact .inr (.inl (.of_toList longer cut))
    · simp only [List.append_nil, String.toList_inj, List.cons.injEq, true_and] at longer equal
      exact .inl ⟨longer, equal⟩
    · exact .inr (.inr (.of_toList longer cut))
  · rintro (⟨rfl, rfl⟩ | ⟨middle, rfl, rfl⟩ | ⟨middle, rfl, rfl⟩)
    · rfl
    · exact (permissionKey_assoc _ _ _).symm
    · exact permissionKey_assoc _ _ _

/-- A separator that passes leaves one in the action. -/
theorem Shifted.split {object action otherObject otherAction : String}
    (shifted : Shifted object action otherObject otherAction) : keySeparator ∈ action.toList := by
  obtain ⟨middle, -, rfl⟩ := shifted
  simp [toList_permissionKey]

/-- A key is split just if it holds the separator, and then at its last one: the parts make up the
key, and the second holds no separator. So the key tells a pair whose action holds none, however
many its object holds. -/
theorem permissionKey_exact :
    (∀ key, splitPermissionKey key = none ↔ keySeparator ∉ key.toList) ∧
    (∀ key object action, splitPermissionKey key = some (object, action) →
      permissionKey object action = key ∧ keySeparator ∉ action.toList) ∧
    (∀ object action, splitPermissionKey (permissionKey object action) = some (object, action) ↔
      keySeparator ∉ action.toList) ∧
    (∀ object action otherObject otherAction, keySeparator ∉ action.toList →
      keySeparator ∉ otherAction.toList →
      permissionKey object action = permissionKey otherObject otherAction →
      object = otherObject ∧ action = otherAction) ∧
    ∀ n action, keySeparator ∉ action.toList →
      ∃ object, object.toList.count keySeparator = n ∧
        splitPermissionKey (permissionKey object action) = some (object, action) := by
  refine ⟨fun key => splitPermissionKey_eq_none_iff, ?_,
    fun object action => splitPermissionKey_permissionKey, ?_, ?_⟩
  · intro key object action split
    obtain ⟨whole, unsplit⟩ := splitPermissionKey_eq_some_iff.mp split
    exact ⟨whole.symm, unsplit⟩
  · intro object action otherObject otherAction unsplit otherUnsplit same
    exact permissionKey_injective unsplit otherUnsplit same
  · intro n action unsplit
    refine ⟨String.ofList (List.replicate n keySeparator), by simp, ?_⟩
    exact splitPermissionKey_permissionKey.mpr unsplit

theorem permissionKey_exact_nested :
    splitPermissionKey "doc#1#read" = some ("doc#1", "read") ∧
      permissionKey "doc#1" "read" = "doc#1#read" ∧
      splitPermissionKey (permissionKey "doc#1" "read") = some ("doc#1", "read") ∧
      permissionKey "doc#1" "read" ≠ permissionKey "doc" "1read" := by
  obtain ⟨-, parts, exact, tells, -⟩ := permissionKey_exact
  have split : splitPermissionKey "doc#1#read" = some ("doc#1", "read") := by decide
  obtain ⟨whole, unsplit⟩ := parts _ _ _ split
  refine ⟨split, whole, (exact _ _).mpr unsplit, fun same => ?_⟩
  exact absurd (tells _ _ _ _ unsplit (by decide) same).1 (by decide)

/-! ### What the roles of a user give -/

namespace Relations

variable {r : Relations} {user domain : String} {g : Grant}

/-- The grant is stored, and its role is assigned to the user in the domain. -/
def Gives (r : Relations) (user domain : String) (g : Grant) : Prop :=
  r.Holds (.grant g) ∧ r.Holds (.assignment ⟨user, g.role, domain⟩)

/-- The empty role counts every stored grant for the user. -/
theorem confers_iff : r.Confers user domain g ↔
    r.Gives user domain g ∨ r.Holds (.grant g) ∧ r.Holds (.assignment ⟨user, "", domain⟩) := by
  constructor
  · rintro ⟨stored, role, assigned, rfl | rfl⟩
    · exact .inr ⟨stored, assigned⟩
    · exact .inl ⟨stored, assigned⟩
  · rintro (⟨stored, assigned⟩ | ⟨stored, assigned⟩)
    · exact ⟨stored, g.role, assigned, .inr rfl⟩
    · exact ⟨stored, "", assigned, .inl rfl⟩

theorem confers_iff_of_named (named : ¬ r.Holds (.assignment ⟨user, "", domain⟩)) :
    r.Confers user domain g ↔ r.Gives user domain g := by
  rw [confers_iff]
  exact or_iff_left fun wild => named wild.2

/-- Requests store no assignment of the empty role. -/
theorem not_holds_empty_role (attainable : Attainable r) :
    ¬ r.Holds (.assignment ⟨user, "", domain⟩) := by
  intro holds
  have given := attainable.given holds "" (by simp [Assignment.key])
  cases given.symm.trans Text.isBlank_empty

/-- A key is listed that no assigned role accounts for, just if the empty role is assigned and
some stored grant has a key that no assigned role accounts for. -/
theorem sound_iff (given : user ≠ "") :
    (∀ key ∈ r.index.permissionsOf user domain,
        ∃ g, r.Gives user domain g ∧ g.permission = key) ↔
      (r.Holds (.assignment ⟨user, "", domain⟩) → ∀ h, r.Holds (.grant h) →
        ∃ g, r.Gives user domain g ∧ g.permission = h.permission) := by
  simp only [mem_permissionsOf given]
  constructor
  · intro sound wild h stored
    exact sound _ ⟨h, confers_iff.mpr (.inr ⟨stored, wild⟩), rfl⟩
  · rintro covered key ⟨h, confers, rfl⟩
    rcases confers_iff.mp confers with gives | ⟨stored, wild⟩
    · exact ⟨h, gives, rfl⟩
    · exact covered wild h stored

end Relations

/-! ### Main results -/

namespace Authority

variable {k : Nat} {f : Fleet} {user domain object action : String}

/-- The role `reader` has one grant, and Alice has that role. -/
def reading (object action : String) : Relations :=
  .ofFacts [.grant ⟨"reader", "docs", object, action⟩, .assignment ⟨"alice", "reader", "docs"⟩]

theorem holds_reading {object action : String} {fact : Fact} :
    (reading object action).Holds fact ↔
      fact = .grant ⟨"reader", "docs", object, action⟩ ∨
        fact = .assignment ⟨"alice", "reader", "docs"⟩ := by
  simp [reading, Relations.holds_ofFacts]

/-- The user has the empty role besides. -/
def wild (user : String) : Relations :=
  (reading "doc" "read").insert (.assignment ⟨user, "", "docs"⟩)

theorem eq_of_holds_wild {user : String} {g : Grant} (stored : (wild user).Holds (.grant g)) :
    g = ⟨"reader", "docs", "doc", "read"⟩ := by
  rcases Relations.holds_insert.mp stored with equal | before
  · cases equal
  · rcases holds_reading.mp before with equal | equal
    · exact Fact.grant.inj equal
    · cases equal

theorem attainable_reading {object action : String} (objectGiven : Text.isBlank object = false)
    (actionGiven : Text.isBlank action = false) : Attainable (reading object action) := by
  refine attainable_iff.mpr fun fact holds => ?_
  have role : Text.isBlank "reader" = false := by decide
  have domain : Text.isBlank "docs" = false := by decide
  have user : Text.isBlank "alice" = false := by decide
  rcases holds_reading.mp holds with rfl | rfl
  · simp [Fact.Given, Grant.key, role, domain, objectGiven, actionGiven]
  · simp [Fact.Given, Assignment.key, role, domain, user]

/-- Over a content that requests have led to and a current index, the check says yes just if some
grant of a role of the user is of the object and the action, or becomes so when a separator passes
from its action to its object or back. -/
theorem allows_iff (attainable : Attainable f.relations) (current : f.Current k)
    (userGiven : Text.isBlank user = false) (domainGiven : Text.isBlank domain = false)
    (objectGiven : Text.isBlank object = false) (actionGiven : Text.isBlank action = false) :
    ∃ answer, f.run k (allows user domain object action) = (.ok answer, f) ∧
      (answer = true ↔ ∃ g, f.relations.Gives user domain g ∧
        ((g.object = object ∧ g.action = action) ∨ Shifted g.object g.action object action ∨
          Shifted object action g.object g.action)) := by
  have met : Demand.check [.text "object" object, .text "action" action, .text "user" user,
      .text "domain" domain] = .ok () := by
    simp [Demand.check_eq_ok_iff, Demand.met, userGiven, domainGiven, objectGiven, actionGiven]
  refine ⟨((f.indexOf k).permissionsOf user domain).contains (permissionKey object action), ?_, ?_⟩
  · rw [run_allows, met]
    rfl
  · rw [current, List.contains_iff_mem,
      Relations.mem_permissionsOf (ne_empty_of_isBlank userGiven)]
    simp only [Relations.confers_iff_of_named (Relations.not_holds_empty_role attainable),
      Grant.permission, permissionKey_eq_iff]

theorem allows_iff_reader :
    let f := holding (reading "doc" "read")
    f.run 0 (allows "alice" "docs" "doc" "read") = (.ok true, f) := by
  intro f
  have userGiven : Text.isBlank "alice" = false := by decide
  have domainGiven : Text.isBlank "docs" = false := by decide
  have objectGiven : Text.isBlank "doc" = false := by decide
  have actionGiven : Text.isBlank "read" = false := by decide
  have attainable : Attainable f.relations := attainable_reading objectGiven actionGiven
  have current : f.Current 0 := rfl
  have gives : f.relations.Gives "alice" "docs" ⟨"reader", "docs", "doc", "read"⟩ :=
    ⟨holds_reading.mpr (.inl rfl), holds_reading.mpr (.inr rfl)⟩
  obtain ⟨answer, run, exact_iff⟩ :=
    allows_iff attainable current userGiven domainGiven objectGiven actionGiven
  rw [run, exact_iff.mpr ⟨_, gives, .inl ⟨rfl, rfl⟩⟩]

/-- Who may do `old#read` to a document may also read another one. -/
theorem allows_inexact :
    let f := holding (reading "doc" "old#read")
    Attainable f.relations ∧ f.Current 0 ∧
      (f.run 0 (allows "alice" "docs" "doc#old" "read")).1.toOption = some true ∧
      ¬ ∃ g, f.relations.Gives "alice" "docs" g ∧ g.object = "doc#old" ∧ g.action = "read" := by
  refine ⟨attainable_reading (by decide) (by decide), rfl, by decide +kernel, ?_⟩
  rintro ⟨g, ⟨stored, -⟩, sameObject, -⟩
  rcases holds_reading.mp stored with equal | equal
  · cases equal
    revert sameObject
    decide
  · cases equal

/-- Over a current index a user's permissions are the keys of the grants of the user's roles and,
if the empty role is among these, of all grants. So they are the keys of the grants of the user's
roles just if the empty role is not assigned or adds no key. -/
theorem permissions_sound_iff (current : f.Current k) (userGiven : Text.isBlank user = false)
    (domainGiven : Text.isBlank domain = false) :
    ∃ keys, f.run k (permissions user domain) = (.ok keys, f) ∧
      (∀ key, key ∈ keys ↔ ∃ g, f.relations.Confers user domain g ∧ g.permission = key) ∧
      ((∀ key ∈ keys, ∃ g, f.relations.Gives user domain g ∧ g.permission = key) ↔
        (f.relations.Holds (.assignment ⟨user, "", domain⟩) →
          ∀ h, f.relations.Holds (.grant h) →
            ∃ g, f.relations.Gives user domain g ∧ g.permission = h.permission)) := by
  have met : Demand.check [.text "user" user, .text "domain" domain] = .ok () := by
    simp [Demand.check_eq_ok_iff, Demand.met, userGiven, domainGiven]
  have given := ne_empty_of_isBlank userGiven
  refine ⟨(f.indexOf k).permissionsOf user domain, ?_, ?_, ?_⟩
  · rw [run_permissions, met]
    rfl
  · rw [current]
    exact fun key => Relations.mem_permissionsOf given
  · rw [current]
    exact Relations.sound_iff given

/-- Alice has the empty role and another one, and the other one accounts for every key. -/
theorem permissions_sound_reader :
    let f := holding (wild "alice")
    ∃ keys, f.run 0 (permissions "alice" "docs") = (.ok keys, f) ∧
      ∀ key ∈ keys, ∃ g, f.relations.Gives "alice" "docs" g ∧ g.permission = key := by
  intro f
  have userGiven : Text.isBlank "alice" = false := by decide
  have domainGiven : Text.isBlank "docs" = false := by decide
  have current : f.Current 0 := rfl
  have assigned : f.relations.Holds (.assignment ⟨"alice", "reader", "docs"⟩) := by
    decide +kernel
  obtain ⟨keys, run, -, sound_iff⟩ := permissions_sound_iff current userGiven domainGiven
  refine ⟨keys, run, sound_iff.mpr fun _ h stored => ⟨h, ⟨stored, ?_⟩, rfl⟩⟩
  rwa [eq_of_holds_wild stored]

/-- With no role but the empty one Bob is given what the readers are. -/
theorem permissions_unsound :
    let f := holding (wild "bob")
    f.Current 0 ∧ (f.run 0 (permissions "bob" "docs")).1.toOption = some ["doc#read"] ∧
      ¬ ∃ g, f.relations.Gives "bob" "docs" g ∧ g.permission = "doc#read" := by
  refine ⟨rfl, by decide +kernel, ?_⟩
  rintro ⟨g, ⟨stored, assigned⟩, -⟩
  rw [eq_of_holds_wild stored] at assigned
  revert assigned
  decide +kernel

end Authority

end Entitlement
