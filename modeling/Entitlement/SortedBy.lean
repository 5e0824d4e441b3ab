/-!
# Lists kept in order by a key

A list whose elements ascend strictly by the lexicographic order of a key, and hence hold no key
twice. With an injective key it is a set in canonical form: two of them with the same members are
equal.
-/

namespace Entitlement

/-- A list in strictly ascending order of `key`. -/
structure SortedBy {α : Type} (key : α → List String) where
  toList : List α
  ascending : toList.Pairwise fun a b => key a < key b

namespace SortedBy

variable {α : Type} {key : α → List String}

instance : Membership α (SortedBy key) := ⟨fun s a => a ∈ s.toList⟩

theorem mem_iff {s : SortedBy key} {a : α} : a ∈ s ↔ a ∈ s.toList := Iff.rfl

instance [DecidableEq α] : DecidableEq (SortedBy key) := fun s t =>
  decidable_of_iff (s.toList = t.toList)
    ⟨fun same => by cases s; cases t; simp_all, fun same => by rw [same]⟩

def empty : SortedBy key := ⟨[], .nil⟩

instance : Inhabited (SortedBy key) := ⟨empty⟩

def size (s : SortedBy key) : Nat := s.toList.length

def find? (s : SortedBy key) (wanted : List String) : Option α :=
  s.toList.find? fun a => key a == wanted

/-- Puts `a` before the first element with a larger key; an element with the same key stays. -/
def place (key : α → List String) (a : α) : List α → List α
  | [] => [a]
  | b :: rest =>
    if key a < key b then a :: b :: rest
    else if key b < key a then b :: place key a rest
    else b :: rest

theorem mem_of_mem_place {a b : α} {l : List α} (member : b ∈ place key a l) :
    b = a ∨ b ∈ l := by
  induction l with
  | nil => simpa [place] using member
  | cons c rest ih =>
    simp only [place] at member
    split at member
    · simpa using member
    · split at member
      · rcases List.mem_cons.mp member with rfl | member
        · simp
        · rcases ih member with h | h <;> simp [h]
      · simp_all

theorem mem_place_of_mem {a b : α} {l : List α} (member : b ∈ l) : b ∈ place key a l := by
  induction l with
  | nil => cases member
  | cons c rest ih =>
    simp only [place]
    split
    · exact List.mem_cons_of_mem _ member
    · split
      · rcases List.mem_cons.mp member with rfl | member
        · simp
        · exact List.mem_cons_of_mem _ (ih member)
      · exact member

theorem exists_key_place (a : α) (l : List α) : ∃ b ∈ place key a l, key b = key a := by
  induction l with
  | nil => exact ⟨a, by simp [place], rfl⟩
  | cons c rest ih =>
    simp only [place]
    split
    · exact ⟨a, by simp, rfl⟩
    · split
      · obtain ⟨b, member, same⟩ := ih
        exact ⟨b, List.mem_cons_of_mem _ member, same⟩
      · next above below =>
        exact ⟨c, by simp, List.le_antisymm (List.not_lt.mp above) (List.not_lt.mp below)⟩

theorem place_ascending {a : α} {l : List α} (ascending : l.Pairwise fun a b => key a < key b) :
    (place key a l).Pairwise fun a b => key a < key b := by
  induction l with
  | nil => simp [place]
  | cons c rest ih =>
    rw [List.pairwise_cons] at ascending
    simp only [place]
    split
    · next less =>
      refine List.pairwise_cons.mpr ⟨?_, List.pairwise_cons.mpr ascending⟩
      intro b member
      rcases List.mem_cons.mp member with rfl | member
      · exact less
      · exact List.lt_trans less (ascending.1 b member)
    · split
      · next less =>
        refine List.pairwise_cons.mpr ⟨fun b member => ?_, ih ascending.2⟩
        rcases mem_of_mem_place member with rfl | member
        · exact less
        · exact ascending.1 b member
      · exact List.pairwise_cons.mpr ascending

def insert (a : α) (s : SortedBy key) : SortedBy key :=
  ⟨place key a s.toList, place_ascending s.ascending⟩

def erase (a : α) (s : SortedBy key) : SortedBy key :=
  ⟨s.toList.filter fun b => key b ≠ key a, s.ascending.filter _⟩

def ofList (l : List α) : SortedBy key :=
  l.foldl (fun s a => s.insert a) empty

/-- The list sorted by key, equal keys kept in their order of appearance. -/
def arrange (key : α → List String) (l : List α) : List α :=
  l.mergeSort fun a b => !decide (key b < key a)

@[simp] theorem toList_empty : (empty : SortedBy key).toList = [] := rfl

@[simp] theorem not_mem_empty (a : α) : a ∉ (empty : SortedBy key) := List.not_mem_nil

theorem mem_erase {a b : α} {s : SortedBy key} : b ∈ s.erase a ↔ b ∈ s ∧ key b ≠ key a := by
  simp [mem_iff, erase]

theorem mem_insert (injective : ∀ {a b : α}, key a = key b → a = b) {a b : α} {s : SortedBy key} :
    b ∈ s.insert a ↔ b = a ∨ b ∈ s := by
  refine ⟨mem_of_mem_place, fun member => ?_⟩
  rcases member with rfl | member
  · obtain ⟨c, member, same⟩ := @exists_key_place α key b s.toList
    exact injective same ▸ member
  · exact mem_place_of_mem member

theorem mem_ofList (injective : ∀ {a b : α}, key a = key b → a = b) {a : α} {l : List α} :
    a ∈ (ofList l : SortedBy key) ↔ a ∈ l := by
  have general (s : SortedBy key) :
      a ∈ l.foldl (fun s a => s.insert a) s ↔ a ∈ l ∨ a ∈ s := by
    induction l generalizing s with
    | nil => simp
    | cons b rest ih => rw [List.foldl_cons, ih, mem_insert injective]; grind
  simpa [ofList] using general empty

private theorem toList_ext {l m : List α} (left : l.Pairwise fun a b => key a < key b)
    (right : m.Pairwise fun a b => key a < key b) (same : ∀ a, a ∈ l ↔ a ∈ m) : l = m := by
  induction l generalizing m with
  | nil =>
    cases m with
    | nil => rfl
    | cons b rest => exact absurd ((same b).mpr (by simp)) List.not_mem_nil
  | cons a rest ih =>
    cases m with
    | nil => exact absurd ((same a).mp (by simp)) List.not_mem_nil
    | cons b others =>
      rw [List.pairwise_cons] at left right
      have heads : a = b := by
        rcases List.mem_cons.mp ((same a).mp (by simp)) with h | inOthers
        · exact h
        · rcases List.mem_cons.mp ((same b).mpr (by simp)) with h | inRest
          · exact h.symm
          · exact absurd (List.lt_trans (right.1 a inOthers) (left.1 b inRest))
              (List.lt_irrefl _)
      subst heads
      congr 1
      refine ih left.2 right.2 fun c => ⟨fun member => ?_, fun member => ?_⟩
      · rcases List.mem_cons.mp ((same c).mp (List.mem_cons_of_mem _ member)) with rfl | h
        · exact absurd (left.1 c member) (List.lt_irrefl _)
        · exact h
      · rcases List.mem_cons.mp ((same c).mpr (List.mem_cons_of_mem _ member)) with rfl | h
        · exact absurd (right.1 c member) (List.lt_irrefl _)
        · exact h

theorem ext {s t : SortedBy key} (same : ∀ a, a ∈ s ↔ a ∈ t) : s = t := by
  have lists : s.toList = t.toList := toList_ext s.ascending t.ascending same
  cases s; cases t; simp_all

theorem arrange_perm (l : List α) : (arrange key l).Perm l := List.mergeSort_perm _ _

/-- Sorted, distinct elements are in strictly ascending order, if the key tells them apart. -/
theorem arrange_ascending {l : List α} (distinct : l.Nodup)
    (injective : ∀ a ∈ l, ∀ b ∈ l, key a = key b → a = b) :
    (arrange key l).Pairwise fun a b => key a < key b := by
  have sorted : (arrange key l).Pairwise fun a b => (!decide (key b < key a)) = true := by
    apply List.pairwise_mergeSort
    · intro a b c first second
      simp only [Bool.not_eq_true', decide_eq_false_iff_not, List.not_lt] at first second ⊢
      exact List.le_trans first second
    · intro a b
      simp only [Bool.or_eq_true, Bool.not_eq_true', decide_eq_false_iff_not, List.not_lt]
      exact List.le_total _ _
  have apart : (arrange key l).Nodup := (arrange_perm l).nodup_iff.mpr distinct
  refine (sorted.and apart).imp_of_mem ?_
  rintro a b left right ⟨above, different⟩
  have notAbove : ¬ key b < key a := by simpa using above
  apply Decidable.byContradiction
  intro notBelow
  have same : key a = key b := List.le_antisymm (List.not_lt.mp notAbove) (List.not_lt.mp notBelow)
  exact different (injective a ((arrange_perm l).mem_iff.mp left) b
    ((arrange_perm l).mem_iff.mp right) same)

/-- A strictly ascending list is what its elements, in any order, are sorted to. -/
theorem arrange_eq {l m : List α} (distinct : l.Nodup)
    (injective : ∀ a ∈ l, ∀ b ∈ l, key a = key b → a = b)
    (ascending : m.Pairwise fun a b => key a < key b) (same : ∀ a, a ∈ m ↔ a ∈ l) :
    arrange key l = m := by
  apply toList_ext (arrange_ascending distinct injective) ascending
  intro a
  rw [(arrange_perm l).mem_iff, same]

end SortedBy

/-- Names are ordered by code point. -/
abbrev nameKey (name : String) : List String := [name]

def sortedNames (names : List String) : List String :=
  (SortedBy.ofList names : SortedBy nameKey).toList

theorem mem_sortedNames {name : String} {names : List String} :
    name ∈ sortedNames names ↔ name ∈ names :=
  SortedBy.mem_ofList (fun same => by simpa using same)

theorem nameKey_lt_iff {name other : String} : nameKey name < nameKey other ↔ name < other := by
  simp [nameKey, List.cons_lt_cons_iff]

theorem sortedNames_ascending (names : List String) :
    (sortedNames names).Pairwise (· < ·) :=
  (SortedBy.ofList names : SortedBy nameKey).ascending.imp nameKey_lt_iff.mp

/-- Names that ascend already stay as they are. -/
theorem arrange_names {names : List String} (ascending : names.Pairwise (· < ·)) :
    SortedBy.arrange nameKey names = names := by
  apply SortedBy.arrange_eq
  case distinct =>
    refine ascending.imp fun less same => ?_
    subst same
    exact String.lt_irrefl _ less
  case injective => simp
  case ascending => exact ascending.imp nameKey_lt_iff.mpr
  case same => simp

end Entitlement
