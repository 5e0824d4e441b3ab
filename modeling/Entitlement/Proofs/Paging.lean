import Entitlement.Proofs.Exactness
import Entitlement.Proofs.Registration

/-!
# Paging through the namespaces

What a user may do is listed namespace by namespace, a page at a time. A page is a window of one
list that does not depend on the window, so whoever asks for page after page until one is empty
has been shown that list, whatever the size of the pages.
-/

namespace Entitlement

/-! ### Windows -/

namespace Window

variable {α β : Type} {w : Window}

theorem page_map (form : α → β) (all : List α) :
    w.page (all.map form) = ⟨(w.page all).items.map form, all.length⟩ := by
  simp [page]

theorem length_page_le (all : List α) : (w.page all).items.length ≤ w.limit := by
  rw [page, List.length_take]
  exact Nat.min_le_left _ _

theorem page_eq_nil_of_le {all : List α} (past : all.length ≤ w.offset) :
    (w.page all).items = [] := by
  rw [page, List.drop_eq_nil_iff.mpr past, List.take_nil]

/-- A page of some size that shows nothing begins where nothing is left. -/
theorem drop_of_page_eq_nil {offset size : Nat} {all : List α} (positive : 1 ≤ size)
    (empty : ((⟨offset, size⟩ : Window).page all).items = []) : all.drop offset = [] := by
  rcases List.take_eq_nil_iff.mp empty with none | nothing
  · exact absurd none (Nat.ne_of_gt positive)
  · exact nothing

/-- What a page leaves is what comes from its end on. -/
theorem page_append_drop (offset size : Nat) (all : List α) :
    ((⟨offset, size⟩ : Window).page all).items ++ all.drop (offset + size) = all.drop offset := by
  rw [page, ← List.drop_drop]
  exact List.take_append_drop size _

end Window

namespace Fleet

variable {f : Fleet}

/-- No fault is armed on the listing of namespaces, and a registry in memory has no other way to
fail. -/
def Lists (f : Fleet) : Prop := ∀ fault ∈ f.storeFaults, fault.trigger.point ≠ .listing

theorem listing_of_lists (lists : f.Lists) (w : Window) :
    f.listing w = (.ok (f.registry.page w), f) := by
  have passes : f.strikeStore { point := .listing } = (none, f) := strikeStore_of_spared lists
  simp [listing, passes]

/-- Every namespace, in the order of their names, with what the user may do there. -/
def overview (k : Nat) (user : String) (f : Fleet) : List NamespacePermissions :=
  f.registry.toList.map fun record => ⟨record.name, (f.indexOf k).permissionsOf user record.name⟩

theorem length_overview (k : Nat) (user : String) (f : Fleet) :
    (f.overview k user).length = f.registry.size := by
  simp [overview, SortedBy.size]

theorem names_overview (k : Nat) (user : String) (f : Fleet) :
    (f.overview k user).map (·.name) = f.registry.toList.map (·.name) := by
  simp [overview]

end Fleet

namespace Authority

variable {k : Nat} {f g : Fleet} {user : String}

/-! ### One page -/

section Given

variable (userGiven : Text.isBlank user = false)

include userGiven

theorem run_permissionsIn {records : List Namespace}
    (named : ∀ record ∈ records, Text.isBlank record.name = false) :
    f.run k (permissionsIn user records) =
      (.ok (records.map fun record =>
        ⟨record.name, (f.indexOf k).permissionsOf user record.name⟩), f) := by
  induction records with
  | nil => rfl
  | cons record rest ih =>
    rw [List.forall_mem_cons] at named
    have first : f.run k (permissions user record.name) = _ :=
      run_permissions_of_given userGiven named.1
    have others := ih named.2
    rw [permissionsIn, Fleet.run_bind_of_ok (congrArg Prod.fst first), first,
      Fleet.run_bind_of_ok (congrArg Prod.fst others), others]
    rfl

variable (lists : f.Lists) (named : ∀ record ∈ f.registry, Text.isBlank record.name = false)

include lists named

/-- A page is a window of the overview, and asking for it changes nothing. -/
theorem run_namespacePermissions (w : Window) :
    f.run k (namespacePermissions user w) = (.ok (w.page (f.overview k user)), f) := by
  have shown : ∀ record ∈ (f.registry.page w).items, Text.isBlank record.name = false :=
    fun record member => named record (List.mem_of_mem_drop (List.mem_of_mem_take member))
  have items := run_permissionsIn (k := k) (f := f) userGiven shown
  have met : (Demand.text "user" user).met = true := by simp [Demand.met, userGiven]
  have page : f.run k (Attempt.ofStore (Call.perform (.listing w))) =
      (.ok (f.registry.page w), f) := by
    change ((f.listing w).1.mapError _, (f.listing w).2) = _
    rw [Fleet.listing_of_lists lists]
    rfl
  rw [namespacePermissions, run_required, if_pos met,
    Fleet.run_bind_of_ok (congrArg Prod.fst page), page,
    Fleet.run_bind_of_ok (congrArg Prod.fst items), items, Fleet.overview, Window.page_map]
  simp [Fleet.run, Registry.page, Window.page]

/-! ### Page after page -/

/-- Pages of this size are asked for, each where the one before it ends, until one is empty: where
the first begins, the fleet, the pages that come, and the fleet afterwards. -/
inductive Browsed (k : Nat) (user : String) (size : Nat) :
    Nat → Fleet → List (Page NamespacePermissions) → Fleet → Prop
  | last {offset : Nat} {f g : Fleet} {page : Page NamespacePermissions}
      (asked : f.run k (namespacePermissions user ⟨offset, size⟩) = (.ok page, g))
      (empty : page.items = []) : Browsed k user size offset f [page] g
  | next {offset : Nat} {f g h : Fleet} {page : Page NamespacePermissions}
      {pages : List (Page NamespacePermissions)}
      (asked : f.run k (namespacePermissions user ⟨offset, size⟩) = (.ok page, g))
      (more : page.items ≠ []) (rest : Browsed k user size (offset + size) g pages h) :
      Browsed k user size offset f (page :: pages) h

variable {size : Nat}

/-- The pages end, because each of them takes something off what is left. -/
theorem exists_browsed (positive : 1 ≤ size) (offset : Nat) :
    ∃ pages, Browsed k user size offset f pages f := by
  have asked := run_namespacePermissions (k := k) userGiven lists named ⟨offset, size⟩
  by_cases empty : ((⟨offset, size⟩ : Window).page (f.overview k user)).items = []
  · exact ⟨_, .last asked empty⟩
  · have shorter : offset < f.registry.size := by
      rw [← f.length_overview k user]
      exact Nat.lt_of_not_le fun past => empty (Window.page_eq_nil_of_le past)
    obtain ⟨pages, rest⟩ := exists_browsed positive (offset + size)
    exact ⟨_, .next asked empty rest⟩
termination_by f.registry.size - offset

/-- Together the pages show what the overview holds from the first offset on. -/
theorem Browsed.shows (positive : 1 ≤ size) {offset : Nat}
    {pages : List (Page NamespacePermissions)} (browsed : Browsed k user size offset f pages g) :
    g = f ∧ pages.flatMap (·.items) = (f.overview k user).drop offset ∧
      ∀ page ∈ pages, page.total = f.registry.size := by
  induction browsed with
  | @last offset f g page asked empty =>
    rw [run_namespacePermissions userGiven lists named] at asked
    obtain ⟨rfl, rfl⟩ : _ = page ∧ f = g := by simpa using asked
    refine ⟨rfl, ?_, ?_⟩
    · rw [Window.drop_of_page_eq_nil positive empty, List.flatMap_singleton, empty]
    · simp [Window.page, f.length_overview]
  | @next offset f g h page pages asked more rest ih =>
    rw [run_namespacePermissions userGiven lists named] at asked
    obtain ⟨rfl, rfl⟩ : _ = page ∧ f = g := by simpa using asked
    obtain ⟨unchanged, shown, totals⟩ := ih lists named
    refine ⟨unchanged, ?_, ?_⟩
    · rw [List.flatMap_cons, shown, Window.page_append_drop]
    · rw [List.forall_mem_cons]
      exact ⟨f.length_overview k user, totals⟩

end Given

/-! ### Main result -/

/-- Whoever asks for page after page of some size is shown every namespace once, in the order of
the names, with the permissions that the user has there. Every page tells how many namespaces there
are, no window makes the request fail or shows more than its limit, and a window past the end shows
nothing. -/
theorem paging_covers (lists : f.Lists)
    (named : ∀ record ∈ f.registry, Text.isBlank record.name = false)
    (userGiven : Text.isBlank user = false) :
    (∀ size, 1 ≤ size →
      (∃ pages, Browsed k user size 0 f pages f) ∧
      ∀ pages g, Browsed k user size 0 f pages g →
        g = f ∧ (∀ page ∈ pages, page.total = f.registry.size) ∧
        ((pages.flatMap (·.items)).map (·.name)).Pairwise (· < ·) ∧
        (∀ name, name ∈ (pages.flatMap (·.items)).map (·.name) ↔
          ∃ record ∈ f.registry, record.name = name) ∧
        ∀ item ∈ pages.flatMap (·.items),
          f.run k (permissions user item.name) = (.ok item.permissions, f)) ∧
    ∀ w : Window, ∃ page, f.run k (namespacePermissions user w) = (.ok page, f) ∧
      page.items.length ≤ w.limit ∧ page.total = f.registry.size ∧
      (f.registry.size ≤ w.offset → page.items = []) := by
  refine ⟨fun size positive => ⟨exists_browsed userGiven lists named positive 0, ?_⟩, fun w => ?_⟩
  · intro pages g browsed
    obtain ⟨unchanged, shown, totals⟩ := browsed.shows userGiven lists named positive
    rw [List.drop_zero] at shown
    rw [shown, f.names_overview]
    refine ⟨unchanged, totals, ?_, fun name => List.mem_map, fun item member => ?_⟩
    · exact List.pairwise_map.mpr (f.registry.ascending.imp nameKey_lt_iff.mp)
    · obtain ⟨record, registered, rfl⟩ := List.mem_map.mp member
      exact run_permissions_of_given userGiven (named record registered)
  · refine ⟨_, run_namespacePermissions userGiven lists named w, Window.length_page_le _,
      f.length_overview k user, fun past => Window.page_eq_nil_of_le ?_⟩
    rwa [f.length_overview]

/-- Three namespaces, and Alice may read in one of them. -/
def threefold : Fleet :=
  { holding (reading "doc" "read") with
    registry := .ofList [⟨"wiki", "Wiki", ""⟩, ⟨"docs", "Docs", ""⟩, ⟨"plans", "Plans", ""⟩] }

/-- On pages of two the second page is not full. -/
theorem paging_covers_threefold :
    ∃ pages, Browsed 0 "alice" 2 0 threefold pages threefold ∧
      (∀ page ∈ pages, page.total = 3) ∧
      ∃ item ∈ pages.flatMap (·.items), item.name = "docs" ∧
        threefold.run 0 (permissions "alice" "docs") = (.ok item.permissions, threefold) := by
  have lists : threefold.Lists := fun fault member => absurd member List.not_mem_nil
  have named : ∀ record ∈ threefold.registry.toList, Text.isBlank record.name = false := by
    decide +kernel
  have docs : ∃ record ∈ threefold.registry.toList, record.name = "docs" := by decide +kernel
  have size : threefold.registry.size = 3 := by decide +kernel
  have userGiven : Text.isBlank "alice" = false := by decide
  obtain ⟨browse, -⟩ := paging_covers (k := 0) lists named userGiven
  obtain ⟨⟨pages, browsed⟩, shows⟩ := browse 2 (by decide)
  obtain ⟨-, totals, -, covers, permitted⟩ := shows pages threefold browsed
  obtain ⟨item, member, name⟩ := List.mem_map.mp ((covers "docs").mpr docs)
  refine ⟨pages, browsed, size ▸ totals, item, member, name, ?_⟩
  exact name ▸ permitted item member

end Authority

end Entitlement
