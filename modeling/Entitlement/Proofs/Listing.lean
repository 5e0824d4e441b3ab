import Entitlement.Proofs.Exactness

/-!
# What is listed

The roles of a user, the holders of a role and the domains of a user are three views of the stored
assignments, and they say the same. A listed permission can be cut at its last separator and asked
about again; the answer is yes, unless nothing but blanks follows that separator.
-/

namespace Entitlement

/-! ### Cutting a key again -/

theorem not_mem_of_isBlank {text : String} (blank : Text.isBlank text = true) :
    keySeparator ∉ text.toList := by
  intro member
  have space : Text.isWhiteSpace keySeparator = true := List.all_eq_true.mp blank _ member
  revert space
  decide

theorem isBlank_permissionKey (object action : String) :
    Text.isBlank (permissionKey object action) = false := by
  rw [Bool.eq_false_iff]
  intro blank
  apply not_mem_of_isBlank blank
  simp [toList_permissionKey]

theorem exists_splitPermissionKey (object action : String) :
    ∃ front back, splitPermissionKey (permissionKey object action) = some (front, back) := by
  cases split : splitPermissionKey (permissionKey object action) with
  | some parts => exact ⟨parts.1, parts.2, rfl⟩
  | none => exact absurd (by simp [toList_permissionKey]) (splitPermissionKey_eq_none_iff.mp split)

/-- The last part of the action, behind its last separator, is blank. -/
def Trailing (action : String) : Prop :=
  ∃ front back, action = permissionKey front back ∧ Text.isBlank back = true

theorem not_trailing {action : String} (unsplit : keySeparator ∉ action.toList) :
    ¬ Trailing action := by
  rintro ⟨front, back, rfl, -⟩
  simp [toList_permissionKey] at unsplit

section Cut

variable {object action front back : String}
  (split : splitPermissionKey (permissionKey object action) = some (front, back))

include split

/-- A key is cut where it was joined, or later. -/
theorem cut_cases : (object = front ∧ action = back) ∨ Shifted object action front back := by
  obtain ⟨same, unsplit⟩ := splitPermissionKey_eq_some_iff.mp split
  rcases permissionKey_eq_iff.mp same with equal | later | earlier
  · exact .inl equal
  · exact .inr later
  · exact absurd earlier.split unsplit

theorem isBlank_front (objectGiven : Text.isBlank object = false) :
    Text.isBlank front = false := by
  rcases cut_cases split with ⟨rfl, rfl⟩ | ⟨middle, rfl, rfl⟩
  · exact objectGiven
  · exact isBlank_permissionKey object middle

theorem isBlank_back_iff (actionGiven : Text.isBlank action = false) :
    Text.isBlank back = true ↔ Trailing action := by
  have unsplit := (splitPermissionKey_eq_some_iff.mp split).2
  rcases cut_cases split with ⟨rfl, rfl⟩ | ⟨middle, rfl, rfl⟩
  · rw [actionGiven]
    exact iff_of_false Bool.false_ne_true (not_trailing unsplit)
  · constructor
    · exact fun blank => ⟨middle, back, rfl, blank⟩
    · rintro ⟨before, after, same, blank⟩
      obtain ⟨-, rfl⟩ := permissionKey_injective unsplit (not_mem_of_isBlank blank) same
      exact blank

end Cut

/-- Over contents that requests lead to, the permissions are those of the user's own roles. -/
theorem Relations.mem_permissionsOf_of_attainable {r : Relations} {user domain key : String}
    (attainable : Attainable r) (given : user ≠ "") :
    key ∈ r.index.permissionsOf user domain ↔ ∃ g, r.Gives user domain g ∧ g.permission = key := by
  rw [mem_permissionsOf given]
  simp only [confers_iff_of_named (not_holds_empty_role attainable)]

namespace Authority

variable {k : Nat} {f : Fleet} {user domain : String}

/-! ### Listed permissions -/

/-- Over a content that requests have led to and a current index, a user's permissions are the keys
of the grants of the user's roles. Each of them splits into an object and an action. Asked about
these, the check says yes, unless the last part of the granted action is blank: then the action
counts as missing. -/
theorem allows_of_listed (attainable : Attainable f.relations) (current : f.Current k)
    (userGiven : Text.isBlank user = false) (domainGiven : Text.isBlank domain = false) :
    ∃ keys, f.run k (permissions user domain) = (.ok keys, f) ∧
      (∀ key ∈ keys, ∃ g, f.relations.Gives user domain g ∧ g.permission = key) ∧
      ∀ g, f.relations.Gives user domain g → g.permission ∈ keys ∧
        ∃ object action, splitPermissionKey g.permission = some (object, action) ∧
          (¬ Trailing g.action → f.run k (allows user domain object action) = (.ok true, f)) ∧
          (Trailing g.action →
            f.run k (allows user domain object action) = (.error (.missing "action"), f)) := by
  have listed_iff (key : String) : key ∈ (f.indexOf k).permissionsOf user domain ↔ _ :=
    current ▸ Relations.mem_permissionsOf_of_attainable attainable (ne_empty_of_isBlank userGiven)
  refine ⟨(f.indexOf k).permissionsOf user domain, run_permissions_of_given userGiven domainGiven,
    fun key => (listed_iff key).mp, ?_⟩
  intro g gives
  have listed := (listed_iff g.permission).mpr ⟨g, gives, rfl⟩
  obtain ⟨object, action, split⟩ := exists_splitPermissionKey g.object g.action
  have given := attainable.given gives.1
  have objectGiven := isBlank_front split (given g.object (by simp [Grant.key]))
  have blank_iff := isBlank_back_iff split (given g.action (by simp [Grant.key]))
  -- The parts make up the key that is listed.
  have whole : g.permission = permissionKey object action :=
    (splitPermissionKey_eq_some_iff.mp split).1
  refine ⟨listed, object, action, split, fun clean => ?_, fun trailing => ?_⟩
  · have actionGiven : Text.isBlank action = false :=
      Bool.eq_false_iff.mpr fun blank => clean (blank_iff.mp blank)
    rw [run_allows_of_given userGiven domainGiven objectGiven actionGiven, ← whole,
      List.contains_iff_mem.mpr listed]
  · rw [run_allows, answer_cons, answer_cons]
    simp [Demand.met, Demand.field, objectGiven, blank_iff.mpr trailing]

theorem allows_of_listed_reader :
    let f := holding (reading "doc" "read")
    ∃ object action, splitPermissionKey "doc#read" = some (object, action) ∧
      f.run 0 (allows "alice" "docs" object action) = (.ok true, f) := by
  intro f
  have userGiven : Text.isBlank "alice" = false := by decide
  have domainGiven : Text.isBlank "docs" = false := by decide
  have attainable : Attainable f.relations := attainable_reading (by decide) (by decide)
  have current : f.Current 0 := rfl
  obtain ⟨keys, -, -, answered⟩ := allows_of_listed attainable current userGiven domainGiven
  obtain ⟨-, object, action, split, clean, -⟩ :=
    answered ⟨"reader", "docs", "doc", "read"⟩
      ⟨holds_reading.mpr (.inl rfl), holds_reading.mpr (.inr rfl)⟩
  exact ⟨object, action, split, clean (not_trailing (by decide))⟩

/-- An action may end in the separator. Its permission is listed, and cut at that separator it
lacks an action. -/
theorem not_allows_of_listed :
    let f := holding (reading "doc" "read#")
    Attainable f.relations ∧ f.Current 0 ∧
      (f.run 0 (permissions "alice" "docs")).1.toOption = some ["doc#read#"] ∧
      splitPermissionKey "doc#read#" = some ("doc#read", "") ∧
      (f.run 0 (allows "alice" "docs" "doc#read" "")).1.toOption = none := by
  refine ⟨attainable_reading (by decide) (by decide), rfl, ?_, ?_, ?_⟩ <;> decide +kernel

/-! ### Roles, holders and domains -/

/-- Over a current index the listings ascend strictly and agree: a role is listed for a user just
if the user is listed for the role, which is if the assignment is stored, and a domain is listed
for a user just if some role is. Asked for a user's domains, a replica puts its default domain in
the last place, where it stands once, and leaves the others as they are. -/
theorem listings_agree (current : f.Current k) :
    (∀ user domain, ((f.indexOf k).rolesOf user domain).Pairwise (· < ·)) ∧
    (∀ role domain, ((f.indexOf k).holdersOf role domain).Pairwise (· < ·)) ∧
    (∀ user, ((f.indexOf k).domainsOf user).Pairwise (· < ·)) ∧
    (∀ user role domain, user ≠ "" → role ≠ "" →
      (role ∈ (f.indexOf k).rolesOf user domain ↔
        f.relations.Holds (.assignment ⟨user, role, domain⟩)) ∧
      (user ∈ (f.indexOf k).holdersOf role domain ↔
        f.relations.Holds (.assignment ⟨user, role, domain⟩))) ∧
    (∀ user domain, user ≠ "" →
      (domain ∈ (f.indexOf k).domainsOf user ↔ (f.indexOf k).rolesOf user domain ≠ [])) ∧
    ∀ me user, Text.isBlank user = false →
      ∃ listed, f.run k (domains me user) = (.ok listed, f) ∧
        listed = ((f.indexOf k).domainsOf user).filter (· ≠ me.defaultDomain) ++
          [me.defaultDomain] ∧
        listed.count me.defaultDomain = 1 := by
  refine ⟨fun _ _ => sortedNames_ascending _, fun _ _ => sortedNames_ascending _,
    fun _ => sortedNames_ascending _, ?_, ?_, ?_⟩
  · intro user role domain userGiven roleGiven
    rw [current]
    exact ⟨Index.mem_rolesOf userGiven, Index.mem_holdersOf roleGiven⟩
  · intro user domain userGiven
    rw [Index.mem_domainsOf userGiven, ← List.length_pos_iff, List.length_pos_iff_exists_mem]
    exact exists_congr fun role => (Index.mem_rolesOf userGiven).symm
  · intro me user userGiven
    refine ⟨_, run_domains_of_given userGiven me, rfl, ?_⟩
    simp [List.count_eq_zero]

/-- Alice has roles in two domains, one of them the default. -/
theorem listings_agree_alice :
    let f := holding (.ofFacts [.assignment ⟨"alice", "reader", "docs"⟩,
      .assignment ⟨"alice", "reader", "default"⟩, .assignment ⟨"bob", "writer", "plans"⟩])
    "reader" ∈ (f.indexOf 0).rolesOf "alice" "docs" ∧
      "alice" ∈ (f.indexOf 0).holdersOf "reader" "docs" ∧
      "docs" ∈ (f.indexOf 0).domainsOf "alice" ∧
      ∃ listed, f.run 0 (domains { id := "a" } "alice") = (.ok listed, f) ∧
        listed = ["docs", "default"] := by
  intro f
  have current : f.Current 0 := rfl
  have assigned : f.relations.Holds (.assignment ⟨"alice", "reader", "docs"⟩) := by
    decide +kernel
  obtain ⟨-, -, -, views, held, last⟩ := listings_agree current
  obtain ⟨role_iff, holder_iff⟩ := views "alice" "reader" "docs" (by decide) (by decide)
  obtain ⟨listed, run, shape, -⟩ := last { id := "a" } "alice" (by decide)
  have role := role_iff.mpr assigned
  refine ⟨role, holder_iff.mpr assigned, ?_, listed, run, ?_⟩
  · exact (held "alice" "docs" (by decide)).mpr (List.ne_nil_of_mem role)
  · rw [shape]
    decide +kernel

end Authority

end Entitlement
