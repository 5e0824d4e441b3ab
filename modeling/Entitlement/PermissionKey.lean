/-!
# Permission keys

A permission is shown as one text, the object and the action joined by `#`. The text is split again
at its last `#`, so objects may hold the separator and actions should not.
-/

namespace Entitlement

def keySeparator : Char := '#'

/-- The text `object#action`. -/
def permissionKey (object action : String) : String :=
  object ++ String.singleton keySeparator ++ action

/-- What stands before and after the last occurrence of `c`. -/
def splitAtLast (c : Char) : List Char → Option (List Char × List Char)
  | [] => none
  | x :: rest =>
    match splitAtLast c rest with
    | some (before, after) => some (x :: before, after)
    | none => if x = c then some ([], rest) else none

def splitPermissionKey (key : String) : Option (String × String) :=
  (splitAtLast keySeparator key.toList).map fun (object, action) =>
    (String.ofList object, String.ofList action)

theorem splitAtLast_eq_none_iff {c : Char} {l : List Char} : splitAtLast c l = none ↔ c ∉ l := by
  induction l with
  | nil => simp [splitAtLast]
  | cons x rest ih =>
    simp only [splitAtLast]
    cases found : splitAtLast c rest <;> grind

theorem splitAtLast_eq_some {c : Char} {l before after : List Char}
    (split : splitAtLast c l = some (before, after)) : l = before ++ c :: after ∧ c ∉ after := by
  induction l generalizing before after with
  | nil => simp [splitAtLast] at split
  | cons x rest ih =>
    simp only [splitAtLast] at split
    cases found : splitAtLast c rest with
    | some pair =>
      obtain ⟨before', after'⟩ := pair
      have step := ih found
      grind
    | none =>
      have absent := splitAtLast_eq_none_iff.mp found
      grind

theorem splitAtLast_append {c : Char} {before after : List Char} (absent : c ∉ after) :
    splitAtLast c (before ++ c :: after) = some (before, after) := by
  induction before with
  | nil => simp [splitAtLast, splitAtLast_eq_none_iff.mpr absent]
  | cons x rest ih => simp [splitAtLast, ih]

theorem toList_permissionKey (object action : String) :
    (permissionKey object action).toList =
      object.toList ++ keySeparator :: action.toList := by
  simp [permissionKey]

theorem splitPermissionKey_eq_none_iff {key : String} :
    splitPermissionKey key = none ↔ keySeparator ∉ key.toList := by
  rw [splitPermissionKey, Option.map_eq_none_iff, splitAtLast_eq_none_iff]

/-- The two parts make up the key, and the second one is not split any further. -/
theorem splitPermissionKey_eq_some_iff {key object action : String} :
    splitPermissionKey key = some (object, action) ↔
      key = permissionKey object action ∧ keySeparator ∉ action.toList := by
  constructor
  · intro split
    obtain ⟨⟨before, after⟩, parts, same⟩ := Option.map_eq_some_iff.mp split
    obtain ⟨whole, absent⟩ := splitAtLast_eq_some parts
    cases same
    refine ⟨?_, by simpa using absent⟩
    rw [← String.toList_inj, toList_permissionKey, whole]
    simp
  · rintro ⟨rfl, absent⟩
    rw [splitPermissionKey, toList_permissionKey, splitAtLast_append absent]
    simp

/-- Whatever stands in an object, a key made of an action without the separator splits into what it
was made of. -/
theorem splitPermissionKey_permissionKey {object action : String} :
    splitPermissionKey (permissionKey object action) = some (object, action) ↔
      keySeparator ∉ action.toList := by
  simp [splitPermissionKey_eq_some_iff]

/-- Keys of actions without the separator are equal only for equal objects and actions. -/
theorem permissionKey_injective {object action otherObject otherAction : String}
    (unsplit : keySeparator ∉ action.toList) (otherUnsplit : keySeparator ∉ otherAction.toList)
    (same : permissionKey object action = permissionKey otherObject otherAction) :
    object = otherObject ∧ action = otherAction := by
  have parts : splitPermissionKey (permissionKey object action) = some (object, action) :=
    splitPermissionKey_permissionKey.mpr unsplit
  rw [same, splitPermissionKey_permissionKey.mpr otherUnsplit] at parts
  simp only [Option.some.injEq, Prod.mk.injEq] at parts
  exact ⟨parts.1.symm, parts.2.symm⟩

end Entitlement
