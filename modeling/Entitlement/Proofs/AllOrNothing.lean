import Entitlement.Proofs.Batch
import Entitlement.Proofs.Validation

/-!
# All or nothing

What a batch of assignments leaves in the store. A replica whose index is current when the batch
begins leaves everybody assigned or, as far as taking back succeeds, nobody. A replica whose index
is older than the store can take for new what another replica assigned, and take it back.
-/

namespace Entitlement

open Fleet (Current Inert Serves Tracked deeds handler)

namespace Authority

variable {k : Nat} {f g : Fleet} {users : List String} {role domain : String} {cause : Failure}
  {done : List Deed} {tried : List Assignment} {stray : Option Stray} {undone : List Undoing}

/-! ### A batch that succeeds -/

theorem assignEach_ok (me : Profile) (serves : f.Serves k) (current : f.Current k)
    {made : List Assignment} (named : ∀ user ∈ users, user ≠ "")
    (succeeded : ((assignEach me role domain users made).run.run (handler k) f).1 = .ok ()) :
    let after := ((assignEach me role domain users made).run.run (handler k) f).2
    (∀ fact, after.relations.Holds fact ↔
      f.relations.Holds fact ∨ ∃ user ∈ users, fact = .assignment ⟨user, role, domain⟩) ∧
    after.Current k := by
  induction users generalizing f made with
  | nil => exact ⟨by simp [assignEach, Call.note, Call.perform, handler], current⟩
  | cons user rest ih =>
    have namedRest : ∀ user ∈ rest, user ≠ "" :=
      fun other member => named other (List.mem_cons_of_mem _ member)
    rcases assignEach_cases me serves user rest made with
      ⟨held, played, -⟩ | ⟨-, result, early, g, committed, framed, played, -⟩
    · rw [played] at succeeded ⊢
      obtain ⟨holds, later⟩ := ih serves current namedRest succeeded
      -- The index is current, so a user whom it lists is assigned already.
      have stored : f.relations.Holds (.assignment ⟨user, role, domain⟩) := by
        rw [current, Index.mem_rolesOf (named user List.mem_cons_self)] at held
        exact held
      refine ⟨fun fact => ?_, later⟩
      simp only [holds, List.mem_cons, exists_eq_or_imp]
      constructor
      · rintro (before | inRest)
        · exact .inl before
        · exact .inr (.inr inRest)
      · rintro (before | rfl | inRest)
        · exact .inl before
        · exact .inl stored
        · exact .inr inRest
    · have later := serves.of_framed framed
      rw [played] at succeeded ⊢
      cases result with
      | ok =>
        -- The commit has made the index current, and the batch goes on from there.
        simp only [continueBatch] at succeeded ⊢
        obtain ⟨relations, fresh⟩ := committed.current
        obtain ⟨holds, last⟩ := ih later fresh namedRest succeeded
        refine ⟨fun fact => ?_, last⟩
        simp only [holds, relations, Relations.write, Relations.holds_insert, List.mem_cons,
          exists_eq_or_imp]
        rw [or_assoc, or_left_comm]
      | error cause =>
        -- A failed commit fails the batch.
        obtain ⟨returned, -⟩ := continueBatch_error me later role domain user rest made cause
        rw [returned] at succeeded
        cases succeeded

/-! ### The content after a batch that failed -/

/-- The fact was inserted, and its deletion failed without effect. -/
def Leftover (done : List Deed) (fact : Fact) : Prop :=
  .wrote .insert fact none true ∈ done ∧
    ∃ refusal, .wrote .delete fact (some refusal) true ∈ done

theorem storedOf?_undone {undone : List Undoing}
    (distinct : (undone.map Undoing.assignment).Nodup) {u : Undoing} (member : u ∈ undone) :
    (undone.map Undoing.deed).filterMap (Deed.storedOf? (.assignment u.assignment)) =
      [u.stored] := by
  induction undone with
  | nil => cases member
  | cons v rest ih =>
    rw [List.map_cons, List.nodup_cons] at distinct
    obtain ⟨absent, others⟩ := distinct
    rcases List.mem_cons.mp member with rfl | inRest
    -- It is the first, and the others are about other assignments.
    · have silent : (rest.map Undoing.deed).filterMap
          (Deed.storedOf? (.assignment u.assignment)) = [] := by
        refine Deed.filterMap_storedOf?_map fun v inRest => ?_
        have other : v.assignment ≠ u.assignment :=
          fun same => absent (same ▸ List.mem_map_of_mem inRest)
        simp [Undoing.deed, Deed.storedOf?, other]
      simp [Undoing.deed, Deed.storedOf?, silent]
    · have other : v.assignment ≠ u.assignment :=
        fun same => absent (same ▸ List.mem_map_of_mem inRest)
      rw [List.map_cons, List.filterMap_cons]
      simpa [Undoing.deed, Deed.storedOf?, other] using ih others inRest

namespace Unwound

variable (unwound : Unwound f k users role domain [] cause done tried stray undone)
include unwound

theorem mem_tried {u : Undoing} (member : u ∈ undone) : u.assignment ∈ tried := by
  have listed : u.assignment ∈ undone.map Undoing.assignment := List.mem_map_of_mem member
  rwa [unwound.takenBack, List.append_nil] at listed

theorem mem_done_delete {fact : Fact} {refused : Option StoreFailure} {stored : Bool} :
    .wrote .delete fact refused stored ∈ done ↔
      ∃ u ∈ undone, fact = .assignment u.assignment ∧ u.refused = refused ∧ u.stored = stored := by
  -- Only the writes count, and of these only the deletions.
  have isWrite : .wrote .delete fact refused stored ∈ done ↔
      .wrote .delete fact refused stored ∈ done.filter Deed.isWrite := by
    simp [List.mem_filter, Deed.isWrite]
  rw [isWrite, unwound.writes]
  simp only [List.mem_append, List.mem_map, insertion, Stray.deed, Undoing.deed,
    Deed.wrote.injEq, reduceCtorEq, false_and, and_false, exists_false, false_or, true_and]
  constructor
  · rintro ⟨u, member, same, rest⟩
    exact ⟨u, member, same.symm, rest⟩
  · rintro ⟨u, member, same, rest⟩
    exact ⟨u, member, same.symm, rest⟩

theorem mem_done_insert {a : Assignment} (member : a ∈ tried) :
    .wrote .insert (.assignment a) none true ∈ done := by
  have written : insertion a ∈ done.filter Deed.isWrite := by
    rw [unwound.writes]
    refine List.mem_append_left _ (List.mem_append_left _ ?_)
    exact List.mem_map_of_mem (List.mem_reverse.mpr member)
  exact (List.mem_filter.mp written).1

theorem last_of_undone {u : Undoing} (member : u ∈ undone) :
    (done.filterMap (Deed.storedOf? (.assignment u.assignment))).getLast? = some u.stored := by
  have distinct : (undone.map Undoing.assignment).Nodup := by
    rw [unwound.takenBack, List.append_nil]
    exact unwound.distinct
  rw [← Deed.filterMap_storedOf?_filter, unwound.writes, List.filterMap_append,
    storedOf?_undone distinct member]
  simp

/-- About an assignment that was not taken back, only the refused insertion can say anything. -/
theorem last_of_not_undone {fact : Fact}
    (kept : ∀ u ∈ undone, fact ≠ .assignment u.assignment) :
    done.filterMap (Deed.storedOf? fact) =
      (stray.toList.map Stray.deed).filterMap (Deed.storedOf? fact) := by
  have deleted : (undone.map Undoing.deed).filterMap (Deed.storedOf? fact) = [] := by
    refine Deed.filterMap_storedOf?_map fun u member => ?_
    simp [Undoing.deed, Deed.storedOf?, (kept u member).symm]
  have inserted : (tried.reverse.map insertion).filterMap (Deed.storedOf? fact) = [] := by
    refine Deed.filterMap_storedOf?_map fun a member => ?_
    have listed : a ∈ undone.map Undoing.assignment := by
      rw [unwound.takenBack, List.append_nil]
      exact List.mem_reverse.mp member
    obtain ⟨u, inUndone, rfl⟩ := List.mem_map.mp listed
    simp [insertion, Deed.storedOf?, (kept u inUndone).symm]
  rw [← Deed.filterMap_storedOf?_filter, unwound.writes, List.filterMap_append,
    List.filterMap_append, inserted, deleted, List.nil_append, List.append_nil]

section Content

variable (content : ∀ fact, g.relations.stores fact =
  (done.filterMap (Deed.storedOf? fact)).getLast?.getD (f.relations.stores fact))
include content

theorem stores_of_undone {u : Undoing} (member : u ∈ undone) :
    g.relations.stores (.assignment u.assignment) = u.stored := by
  rw [content, unwound.last_of_undone member]
  rfl

/-- What was not taken back is stored as before, unless a refused insertion took effect. -/
theorem stores_of_not_undone {fact : Fact}
    (kept : ∀ u ∈ undone, fact ≠ .assignment u.assignment) :
    (f.relations.Holds fact → g.relations.Holds fact) ∧
      (f.Inert → g.relations.Holds fact → f.relations.Holds fact) := by
  have said := content fact
  rw [unwound.last_of_not_undone kept] at said
  by_cases straying : ∃ s ∈ stray, fact = .assignment s.assignment
  -- The refused insertion is the last word.
  · obtain ⟨s, isStray, rfl⟩ := straying
    have stored : g.relations.stores (.assignment s.assignment) = s.stored := by
      rw [said, Option.mem_def.mp isStray]
      simp [Stray.deed, Deed.storedOf?]
    rw [← Relations.stores_iff (r := g.relations), stored]
    exact ⟨unwound.kept s isStray, fun inert => unwound.inert inert s isStray⟩
  -- Nothing was said, so nothing has changed.
  · have silent : (stray.toList.map Stray.deed).filterMap (Deed.storedOf? fact) = [] := by
      refine Deed.filterMap_storedOf?_map fun s isStray => ?_
      have other : .assignment s.assignment ≠ fact :=
        fun same => straying ⟨s, Option.mem_toList.mp isStray, same.symm⟩
      simp [Stray.deed, Deed.storedOf?, other]
    rw [silent] at said
    rw [← Relations.stores_iff, ← Relations.stores_iff, said]
    exact ⟨id, fun _ => id⟩

/-- An assignment that was stored before is lost when its deletion takes effect, and only the
first user whom the index lacks can lose one. -/
theorem lost_iff {a : Assignment} (held : f.relations.Holds (.assignment a)) :
    ¬ g.relations.Holds (.assignment a) ↔
      users.find? (unlisted (f.indexOf k) role domain) = some a.user ∧ a.role = role ∧
        a.domain = domain ∧ ∃ refused, .wrote .delete (.assignment a) refused false ∈ done := by
  constructor
  · intro lost
    by_cases undoing : ∃ u ∈ undone, Fact.assignment a = .assignment u.assignment
    · obtain ⟨u, member, same⟩ := undoing
      cases same
      have gone : u.stored = false := by
        rw [← unwound.stores_of_undone content member]
        exact Bool.eq_false_iff.mpr fun stored => lost (Relations.stores_iff.mp stored)
      -- It was inserted before it was deleted, although it was stored already.
      have inTried := List.mem_append_left (stray.toList.map Stray.assignment)
        (unwound.mem_tried member)
      have own := (unwound.own _ inTried).2
      refine ⟨unwound.first _ inTried held, ?_, ?_, u.refused, ?_⟩
      · rw [own]
      · rw [own]
      · exact unwound.mem_done_delete.mpr ⟨u, member, rfl, rfl, gone⟩
    · have kept := unwound.stores_of_not_undone content
        fun u member same => undoing ⟨u, member, same⟩
      exact absurd (kept.1 held) lost
  · rintro ⟨-, -, -, refused, deleted⟩
    obtain ⟨u, member, same, -, gone⟩ := unwound.mem_done_delete.mp deleted
    rw [← Relations.stores_iff, same, unwound.stores_of_undone content member, gone]
    exact Bool.false_ne_true

/-- With a current index, what is stored afterwards is what was stored before and what the batch
inserted and could not delete again. -/
theorem holds_iff (current : f.Current k) (inert : f.Inert) (named : ∀ user ∈ users, user ≠ "")
    (fact : Fact) :
    g.relations.Holds fact ↔ f.relations.Holds fact ∨ Leftover done fact := by
  constructor
  · intro holds
    by_cases undoing : ∃ u ∈ undone, fact = .assignment u.assignment
    · obtain ⟨u, member, rfl⟩ := undoing
      rw [← Relations.stores_iff, unwound.stores_of_undone content member] at holds
      right
      refine ⟨unwound.mem_done_insert (unwound.mem_tried member), ?_⟩
      cases refusing : u.refused with
      | none =>
        -- A deletion that is accepted takes effect.
        rw [u.gone refusing] at holds
        cases holds
      | some refusal =>
        exact ⟨refusal, unwound.mem_done_delete.mpr ⟨u, member, rfl, refusing, holds⟩⟩
    · left
      exact (unwound.stores_of_not_undone content
        fun u member same => undoing ⟨u, member, same⟩).2 inert holds
  · rintro (before | ⟨-, refusal, deleted⟩)
    -- What the batch inserted was not stored before.
    · refine (unwound.stores_of_not_undone content fun u member same => ?_).1 before
      have inTried := List.mem_append_left (stray.toList.map Stray.assignment)
        (unwound.mem_tried member)
      exact unwound.new current named _ inTried (same ▸ before)
    · obtain ⟨u, member, rfl, -, stored⟩ := unwound.mem_done_delete.mp deleted
      rw [← Relations.stores_iff, unwound.stores_of_undone content member, stored]

end Content

end Unwound

/-! ### Assigning a role to all users -/

variable (me : Profile)

theorem assignAll_of_check (given : Demand.check (usersDemands users role domain) = .ok ()) :
    (assignAll me users role domain).run = (assignEach me role domain users []).run := by
  simp [assignAll, checkedUsers_eq, given]

theorem assignAll_of_check_error
    (unmet : Demand.check (usersDemands users role domain) = .error cause) :
    (assignAll me users role domain).run = .done (.error cause) := by
  simp [assignAll, checkedUsers_eq, unmet]

theorem named_of_check (given : Demand.check (usersDemands users role domain) = .ok ()) :
    ∀ user ∈ users, user ≠ "" := by
  intro user member
  exact ne_empty_of_check "user" given (List.mem_append_right _ (List.mem_map_of_mem member))

theorem check_usersDemands (listed : users ≠ []) (given : ∀ user ∈ users, Text.isBlank user = false)
    (roleGiven : Text.isBlank role = false) (domainGiven : Text.isBlank domain = false) :
    Demand.check (usersDemands users role domain) = .ok () := by
  rw [Demand.check_eq_ok_iff]
  intro d member
  simp only [usersDemands, List.mem_append, List.mem_cons, List.not_mem_nil, or_false,
    List.mem_map] at member
  rcases member with (rfl | rfl | rfl) | ⟨user, inUsers, rfl⟩
  · simp [Demand.met, roleGiven]
  · simp [Demand.met, domainGiven]
  · simp [Demand.met, listed]
  · simp [Demand.met, given user inUsers]

/-- The replica's index is current when the batch begins, and no refused insertion takes effect.
A batch that succeeds has assigned everybody. One that fails reports its first failure and leaves
behind what it inserted and could not delete again, and nothing else. Either way the index is
current afterwards, unless the last deed that bears on it, a rebuild that was stopped or a refused
deletion that took effect, spoils it. -/
theorem assignAll_all_or_nothing (serves : f.Serves k) (current : f.Current k) (inert : f.Inert)
    (listed : users ≠ []) (given : ∀ user ∈ users, Text.isBlank user = false)
    (roleGiven : Text.isBlank role = false) (domainGiven : Text.isBlank domain = false) :
    let result := (f.run k (assignAll me users role domain)).1
    let after := (f.run k (assignAll me users role domain)).2
    let done := deeds k (assignAll me users role domain).run f
    (result = .ok () →
      (∀ fact, after.relations.Holds fact ↔
        f.relations.Holds fact ∨ ∃ user ∈ users, fact = .assignment ⟨user, role, domain⟩) ∧
      after.Current k) ∧
    (∀ cause, result = .error cause →
      done.findSome? Deed.failure? = some cause ∧
      (∀ fact, after.relations.Holds fact ↔ f.relations.Holds fact ∨ Leftover done fact) ∧
      ((∀ fact refusal stored, .wrote .delete fact (some refusal) stored ∉ done) →
        after.relations = f.relations)) ∧
    ((done.filterMap Deed.fresh?).getLast? ≠ some false → after.Current k) := by
  have check := check_usersDemands listed given roleGiven domainGiven
  have named := named_of_check check
  have content := fun fact => Fleet.stores_run (k := k)
    (assignEach me role domain users []).run fact f
  simp only [Fleet.run, assignAll_of_check me check]
  cases outcome : ((assignEach me role domain users []).run.run (handler k) f).1 with
  | ok =>
    have assigned := assignEach_ok me serves current named outcome
    refine ⟨fun _ => assigned, ?_, fun _ => assigned.2⟩
    intro cause failed
    cases failed
  | error cause =>
    obtain ⟨tried, stray, undone, unwound, tracked⟩ := assignEach_unwinds me serves named outcome
    have holds := unwound.holds_iff content current inert named
    refine ⟨fun returned => (by cases returned), ?_, (tracked inert).current current⟩
    rintro reported ⟨rfl⟩
    refine ⟨unwound.failure, holds, fun undisturbed => ?_⟩
    refine Relations.ext_holds fun fact => (holds fact).trans ?_
    constructor
    · rintro (before | ⟨-, refusal, deleted⟩)
      · exact before
      · exact absurd deleted (undisturbed fact refusal true)
    · exact Or.inl

/-- The store refuses every call that fits the trigger. -/
def refusing (trigger : Occasion) (persists : Bool) : Fault Occasion StoreEffect :=
  { trigger, effect := ⟨.unavailable "down", persists⟩ }

/-- One replica over an empty store that refuses to insert Bob and to delete anybody; whether the
deletions take effect all the same is left open. -/
def alone (persists : Bool) : Fleet :=
  { members := [some ⟨{ id := "a" }, .empty⟩],
    storeFaults := [refusing { point := .insert, user := some "bob" } false,
      refusing { point := .delete } persists] }

theorem inert_alone (persists : Bool) : (alone persists).Inert := by
  rintro effect ⟨fault, member, point, rfl⟩
  rcases List.mem_cons.mp member with rfl | member
  · rfl
  · cases List.mem_singleton.mp member
    cases point

/-- Bob cannot be inserted, and then Alice cannot be deleted: she is all that is left. -/
theorem assignAll_all_or_nothing_leftover :
    ((alone false).run 0 (assignAll { id := "a" } ["alice", "bob", "alice"] "viewer" "docs")).1 =
      .error (.store (.unavailable "down")) ∧
    (∀ fact,
      ((alone false).run 0
        (assignAll { id := "a" } ["alice", "bob", "alice"] "viewer" "docs")).2.relations.Holds
          fact ↔
      (alone false).relations.Holds fact ∨
        Leftover (deeds 0 (assignAll { id := "a" } ["alice", "bob", "alice"] "viewer" "docs").run
          (alone false)) fact) ∧
    ((alone false).run 0
      (assignAll { id := "a" } ["alice", "bob", "alice"] "viewer" "docs")).2.Current 0 := by
  have serves : (alone false).Serves 0 := ⟨rfl, rfl⟩
  have listed : ["alice", "bob", "alice"] ≠ [] := nofun
  have given : ∀ user ∈ ["alice", "bob", "alice"], Text.isBlank user = false := by decide
  have roleGiven : Text.isBlank "viewer" = false := by decide
  have domainGiven : Text.isBlank "docs" = false := by decide
  obtain ⟨-, failing, mirrored⟩ := assignAll_all_or_nothing { id := "a" } serves rfl
    (inert_alone false) listed given roleGiven domainGiven
  have failed : ((alone false).run 0
      (assignAll { id := "a" } ["alice", "bob", "alice"] "viewer" "docs")).1 =
    .error (.store (.unavailable "down")) := Fleet.refusal_eq_some_iff.mp (by decide +kernel)
  exact ⟨failed, (failing _ failed).2.1, mirrored (by decide +kernel)⟩

/-- A successful last rebuild is not enough for a current index: the deletion of Alice is refused
after it took effect, no rebuild follows, and the index still lists her. -/
theorem assignAll_index_spoiled :
    (alone true).Serves 0 ∧ (alone true).Current 0 ∧ (alone true).Inert ∧
    ((deeds 0 (assignAll { id := "a" } ["alice", "bob"] "viewer" "docs").run
      (alone true)).filterMap Deed.rebuilt?).getLast? = some true ∧
    ¬ ((alone true).run 0
      (assignAll { id := "a" } ["alice", "bob"] "viewer" "docs")).2.Current 0 := by
  refine ⟨⟨rfl, rfl⟩, rfl, inert_alone true, by decide +kernel, ?_⟩
  unfold Fleet.Current
  decide +kernel

/-- Whatever the index of the replica lists and whatever fails, a batch that fails takes a stored
assignment away in exactly one case: it belongs to the first user whom the index lacks, and its
deletion takes effect. -/
theorem assignAll_loses_iff (serves : f.Serves k)
    (failed : (f.run k (assignAll me users role domain)).1 = .error cause) {a : Assignment}
    (held : f.relations.Holds (.assignment a)) :
    ¬ (f.run k (assignAll me users role domain)).2.relations.Holds (.assignment a) ↔
      users.find? (unlisted (f.indexOf k) role domain) = some a.user ∧ a.role = role ∧
        a.domain = domain ∧
        ∃ refused, .wrote .delete (.assignment a) refused false ∈
          deeds k (assignAll me users role domain).run f := by
  unfold Fleet.run at *
  cases check : Demand.check (usersDemands users role domain) with
  | error unmet =>
    -- Nothing is done before all demands are met.
    rw [assignAll_of_check_error me check]
    simp [held]
  | ok =>
    rw [assignAll_of_check me check] at failed ⊢
    obtain ⟨tried, stray, undone, unwound, -⟩ :=
      assignEach_unwinds me serves (named_of_check check) failed
    exact unwound.lost_iff (fun fact => Fleet.stores_run (assignEach me role domain users []).run
      fact f) held

/-- Two replicas that do not watch: the first has assigned Alice, the second does not know it, and
the store refuses Bob. -/
def behind : Fleet :=
  let pair := ((({} : Fleet).addMember { id := "a" }).2.addMember { id := "b" }).2
  let assigned := (pair.run 0 (assign { id := "a" } "alice" "viewer" "docs")).2
  { assigned with storeFaults := [refusing { point := .insert, user := some "bob" } false] }

theorem assignAll_loses_alice :
    ∃ refused, .wrote .delete (.assignment ⟨"alice", "viewer", "docs"⟩) refused false ∈
      deeds 1 (assignAll { id := "b" } ["alice", "bob"] "viewer" "docs").run behind := by
  have serves : behind.Serves 1 := ⟨rfl, rfl⟩
  have failed : (behind.run 1 (assignAll { id := "b" } ["alice", "bob"] "viewer" "docs")).1 =
      .error (.store (.unavailable "down")) := Fleet.refusal_eq_some_iff.mp (by decide +kernel)
  have held : behind.relations.Holds (.assignment ⟨"alice", "viewer", "docs"⟩) := by decide +kernel
  exact ((assignAll_loses_iff { id := "b" } serves failed held).mp (by decide +kernel)).2.2.2

/-- An assignment that was stored when the batch began is gone when it has failed. -/
theorem assignAll_not_conservative :
    behind.relations.Holds (.assignment ⟨"alice", "viewer", "docs"⟩) ∧
    (behind.run 1 (assignAll { id := "b" } ["alice", "bob"] "viewer" "docs")).1 =
      .error (.store (.unavailable "down")) ∧
    ¬ (behind.run 1 (assignAll { id := "b" } ["alice", "bob"] "viewer" "docs")).2.relations.Holds
      (.assignment ⟨"alice", "viewer", "docs"⟩) := by
  refine ⟨by decide +kernel, ?_, by decide +kernel⟩
  exact Fleet.refusal_eq_some_iff.mp (by decide +kernel)

end Authority

end Entitlement
