import Entitlement.Proofs.Commit

/-!
# Batches of assignments

The shape of what `assignAll` writes: insertions in the order of the users until one fails, then a
deletion for each insertion that took effect, the newest first. The content after a batch follows
from this shape, because it follows from the last write of each fact.
-/

namespace Entitlement

open Fleet (Current Inert Serves Tracked deeds handler)

/-- The deletion of an assignment that is taken back; one that is not refused takes effect. -/
structure Undoing where
  assignment : Assignment
  refused : Option StoreFailure
  stored : Bool
  gone : refused = none → stored = false

def Undoing.deed (u : Undoing) : Deed :=
  .wrote .delete (.assignment u.assignment) u.refused u.stored

/-- An insertion that the store refused. -/
structure Stray where
  assignment : Assignment
  cause : StoreFailure
  stored : Bool

def Stray.deed (s : Stray) : Deed :=
  .wrote .insert (.assignment s.assignment) (some s.cause) s.stored

def insertion (a : Assignment) : Deed := .wrote .insert (.assignment a) none true

namespace Authority

variable (me : Profile) {k : Nat} {f g : Fleet} {role domain : String}

/-! ### The equations of the two loops -/

theorem undo_cons (a : Assignment) (rest : List Assignment) :
    undo me (a :: rest) = (Replica.commit me.id .delete (.assignment a)).run >>= fun
      | .ok () => undo me rest
      | .error cause => .act (.note (.event (.undoFailed a cause))) fun _ => undo me rest := rfl

/-- What a batch does once the assignment of a user is committed. -/
def continueBatch (user role domain : String) (rest : List String) (made : List Assignment) :
    Except Failure Unit → Call (Except Failure Unit)
  | .ok () => (assignEach me role domain rest (⟨user, role, domain⟩ :: made)).run
  | .error cause =>
    let stored := if cause.writePersisted then ⟨user, role, domain⟩ :: made else made
    .act (.note (.event (.batchFailed user role domain cause stored.length))) fun _ =>
      undo me stored >>= fun _ => .done (.error cause)

/-- A batch passes a user over whom the index lists, and commits the assignment otherwise. -/
theorem assignEach_cons (user : String) (rest : List String) (made : List Assignment) :
    (assignEach me role domain (user :: rest) made).run = .act .readIndex fun index =>
      if role ∈ index.rolesOf user domain then (assignEach me role domain rest made).run
      else (Replica.commit me.id .insert (.assignment ⟨user, role, domain⟩)).run >>=
        continueBatch me user role domain rest made := by
  simp only [assignEach, Call.look, Call.perform, Call.pure_eq, Call.act_bind, Call.done_bind,
    Attempt.run_bind, Attempt.run_liftCall]
  congr 1
  funext index
  split
  · rfl
  · rw [Attempt.run_bind, Attempt.run_outcome, bind_assoc]
    congr 1
    funext result
    cases result with
    | ok => rfl
    | error cause => simp [continueBatch, Call.note, Call.perform]

theorem assignEach_cases (serves : f.Serves k) (user : String) (rest : List String)
    (made : List Assignment) :
    (role ∈ (f.indexOf k).rolesOf user domain ∧
      (assignEach me role domain (user :: rest) made).run.run (handler k) f =
        (assignEach me role domain rest made).run.run (handler k) f ∧
      deeds k (assignEach me role domain (user :: rest) made).run f =
        deeds k (assignEach me role domain rest made).run f) ∨
    (role ∉ (f.indexOf k).rolesOf user domain ∧
      ∃ result early g,
        Fleet.Committed f k me.id .insert (.assignment ⟨user, role, domain⟩) result early g ∧
        Fleet.Framed k f g ∧
        (assignEach me role domain (user :: rest) made).run.run (handler k) f =
          (continueBatch me user role domain rest made result).run (handler k) g ∧
        deeds k (assignEach me role domain (user :: rest) made).run f =
          early ++ deeds k (continueBatch me user role domain rest made result) g) := by
  rw [assignEach_cons]
  by_cases held : role ∈ (f.indexOf k).rolesOf user domain
  · left
    simp [handler, Fleet.deed?, held]
  · right
    obtain ⟨result, early, g, played, done, committed, framed⟩ :=
      Fleet.exists_committed serves me.id .insert (.assignment ⟨user, role, domain⟩)
    refine ⟨held, result, early, g, committed, framed, ?_⟩
    simp [handler, Fleet.deed?, held, played, done]

/-! ### Taking back -/

theorem undo_spec (serves : f.Serves k) (made : List Assignment) :
    ∃ undone : List Undoing, undone.map Undoing.assignment = made ∧
      (deeds k (undo me made) f).filter Deed.isWrite = undone.map Undoing.deed ∧
      Tracked f k (deeds k (undo me made) f) ((undo me made).run (handler k) f).2 := by
  induction made generalizing f with
  | nil => exact ⟨[], rfl, rfl, ⟨fun _ current => current, nofun⟩⟩
  | cons a rest ih =>
    obtain ⟨result, early, g, played, done, committed, framed⟩ :=
      Fleet.exists_committed serves me.id .delete (.assignment a)
    obtain ⟨refused, writes, effective⟩ := committed.writes
    have later := serves.of_framed framed
    have tracked := committed.tracked nofun
    have gone (accepted : refused = none) : g.relations.stores (.assignment a) = false := by
      rw [effective accepted]
      simp [Relations.stores, Relations.write, Relations.holds_delete]
    rw [undo_cons, Call.run_bind, Fleet.deeds_bind, played, done]
    cases result with
    | ok =>
      obtain ⟨undone, same, others, followed⟩ := ih later
      refine ⟨⟨a, refused, _, gone⟩ :: undone, by rw [List.map_cons, same], ?_, ?_⟩
      · rw [List.filter_append, writes, others]
        rfl
      · exact tracked.trans followed
    | error cause =>
      -- The failure is noted, and the rest is taken back all the same.
      obtain ⟨undone, same, others, followed⟩ :=
        ih (f := g.note (.event (.undoFailed a cause))) ⟨later.honest, later.present⟩
      refine ⟨⟨a, refused, _, gone⟩ :: undone, by rw [List.map_cons, same], ?_, ?_⟩
      · rw [List.filter_append, writes, List.map_cons, ← others]
        rfl
      · exact tracked.trans ⟨followed.unmoved, followed.moved⟩

theorem continueBatch_error (serves : f.Serves k) (role domain user : String)
    (rest : List String) (made : List Assignment) (cause : Failure) :
    let course := continueBatch me user role domain rest made (.error cause)
    (course.run (handler k) f).1 = .error cause ∧
    ∃ undone : List Undoing,
      undone.map Undoing.assignment =
        (if cause.writePersisted then ⟨user, role, domain⟩ :: made else made) ∧
      (deeds k course f).filter Deed.isWrite = undone.map Undoing.deed ∧
      Tracked f k (deeds k course f) (course.run (handler k) f).2 := by
  obtain ⟨undone, same, writes, tracked⟩ := undo_spec me
    (f := f.note (.event (.batchFailed user role domain cause
      (if cause.writePersisted then ⟨user, role, domain⟩ :: made else made).length)))
    ⟨serves.honest, serves.present⟩
    (if cause.writePersisted then ⟨user, role, domain⟩ :: made else made)
  refine ⟨by simp [continueBatch], undone, same, ?_, ?_⟩
  · simpa [continueBatch, handler, Fleet.deed?] using writes
  · have moved := tracked.moved
    have unmoved := tracked.unmoved
    simp only [continueBatch, Call.run_act, Call.run_bind, Call.run_done, Fleet.deeds_act,
      Fleet.deeds_bind, Fleet.deeds_done, handler, Fleet.deed?, Option.toList_none,
      List.nil_append, List.append_nil]
    exact ⟨unmoved, moved⟩

/-! ### A batch that fails -/

/-- Whether the index lacks the assignment of the role to the user. -/
def unlisted (i : Index) (role domain user : String) : Bool :=
  decide (role ∉ i.rolesOf user domain)

theorem not_holds_of_unlisted (current : f.Current k) {user : String} (given : user ≠ "")
    (absent : unlisted (f.indexOf k) role domain user = true) :
    ¬ f.relations.Holds (.assignment ⟨user, role, domain⟩) := by
  rw [current, unlisted, decide_eq_true_iff, Index.mem_rolesOf given] at absent
  exact absent

/-- The course of a batch that fails: it inserted `tried`, here the newest first, may have been
refused one more insertion, and deleted what it had inserted and what it was handed. Of all these
assignments only the first that the index lacked can have been stored before. -/
structure Unwound (f : Fleet) (k : Nat) (users : List String) (role domain : String)
    (made : List Assignment) (cause : Failure) (done : List Deed) (tried : List Assignment)
    (stray : Option Stray) (undone : List Undoing) : Prop where
  writes : done.filter Deed.isWrite =
    tried.reverse.map insertion ++ stray.toList.map Stray.deed ++ undone.map Undoing.deed
  takenBack : undone.map Undoing.assignment = tried ++ made
  failure : done.findSome? Deed.failure? = some cause
  own : ∀ a ∈ tried ++ stray.toList.map Stray.assignment,
    a.user ∈ users ∧ a = ⟨a.user, role, domain⟩
  first : ∀ a ∈ tried ++ stray.toList.map Stray.assignment, f.relations.Holds (.assignment a) →
    users.find? (unlisted (f.indexOf k) role domain) = some a.user
  distinct : tried.Nodup
  kept : ∀ s ∈ stray, f.relations.Holds (.assignment s.assignment) → s.stored = true
  inert : f.Inert → ∀ s ∈ stray, s.stored = true → f.relations.Holds (.assignment s.assignment)

theorem Unwound.new {users : List String} {made : List Assignment} {cause : Failure}
    {done : List Deed} {tried : List Assignment} {stray : Option Stray} {undone : List Undoing}
    (unwound : Unwound f k users role domain made cause done tried stray undone)
    (current : f.Current k) (named : ∀ user ∈ users, user ≠ "") :
    ∀ a ∈ tried ++ stray.toList.map Stray.assignment, ¬ f.relations.Holds (.assignment a) := by
  intro a member holds
  obtain ⟨listed, same⟩ := unwound.own a member
  have absent := List.find?_some (unwound.first a member holds)
  rw [same] at holds
  exact not_holds_of_unlisted current (named a.user listed) absent holds

section Steps

variable {user : String} {rest : List String} {made : List Assignment} {cause : Failure}
  {early late : List Deed} {tried : List Assignment} {stray : Option Stray}
  {undone : List Undoing}

theorem find?_unlisted (absent : role ∉ (f.indexOf k).rolesOf user domain) :
    (user :: rest).find? (unlisted (f.indexOf k) role domain) = some user := by
  simp [unlisted, absent]

theorem Unwound.of_listed (held : role ∈ (f.indexOf k).rolesOf user domain)
    (unwound : Unwound f k rest role domain made cause late tried stray undone) :
    Unwound f k (user :: rest) role domain made cause late tried stray undone := by
  have skipped : unlisted (f.indexOf k) role domain user = false := by
    simpa [unlisted] using held
  refine { unwound with own := ?_, first := ?_ }
  · intro a member
    obtain ⟨listed, same⟩ := unwound.own a member
    exact ⟨List.mem_cons_of_mem _ listed, same⟩
  · intro a member holds
    rw [List.find?_cons, skipped]
    exact unwound.first a member holds

/-- The batch fails with this user. If the failure leaves the assignment stored, it has been
inserted and is taken back first, otherwise the insertion was refused. -/
theorem unwound_of_error (absent : role ∉ (f.indexOf k).rolesOf user domain)
    {id : String} (committed : Fleet.Committed f k id .insert (.assignment ⟨user, role, domain⟩)
      (.error cause) early g)
    (takenBack : undone.map Undoing.assignment =
      if cause.writePersisted then ⟨user, role, domain⟩ :: made else made)
    (writes : late.filter Deed.isWrite = undone.map Undoing.deed) :
    ∃ tried stray, Unwound f k (user :: rest) role domain made cause (early ++ late) tried stray
      undone := by
  have own : ∀ a ∈ [Assignment.mk user role domain],
      a.user ∈ user :: rest ∧ a = ⟨a.user, role, domain⟩ := by
    intro a member
    rw [List.mem_singleton.mp member]
    exact ⟨List.mem_cons_self, rfl⟩
  have first : ∀ a ∈ [Assignment.mk user role domain], f.relations.Holds (.assignment a) →
      (user :: rest).find? (unlisted (f.indexOf k) role domain) = some a.user := by
    intro a member _
    rw [List.mem_singleton.mp member]
    exact find?_unlisted absent
  cases committed with
  | @refused g effect armed relations index =>
    -- The insertion is refused: it is the stray one, and nothing of this user is taken back.
    have stored : g.relations.stores (.assignment ⟨user, role, domain⟩) = true ↔
        effect.persists = true ∨ f.relations.Holds (.assignment ⟨user, role, domain⟩) := by
      cases effective : effect.persists <;>
        simp [relations, effective, Relations.write, Relations.holds_insert]
    refine ⟨[], some ⟨⟨user, role, domain⟩, effect.failure,
      g.relations.stores (.assignment ⟨user, role, domain⟩)⟩, ?_⟩
    constructor
    case writes =>
      rw [List.filter_append, writes]
      rfl
    case takenBack => simpa [Failure.writePersisted] using takenBack
    case failure => rfl
    case own => exact own
    case first => exact first
    case distinct => exact .nil
    case kept =>
      intro s isStray holds
      rw [← Option.mem_some_iff.mp isStray] at holds ⊢
      exact stored.mpr (.inr holds)
    case inert =>
      intro inert s isStray isStored
      rw [← Option.mem_some_iff.mp isStray] at isStored ⊢
      rw [Occasion.point_ofWrite_insert] at armed
      rcases stored.mp isStored with persists | holds
      · rw [inert effect armed] at persists
        cases persists
      · exact holds
  | @stale g effect lost armed relations index =>
    -- The insertion took effect and only the rebuild was stopped, so it is taken back first.
    have stored : g.relations.stores (.assignment ⟨user, role, domain⟩) = true := by
      simp [relations, Relations.write, Relations.holds_insert]
    refine ⟨[⟨user, role, domain⟩], none, ?_⟩
    constructor
    case writes =>
      rw [List.filter_append, writes, stored]
      rfl
    case takenBack => simpa [Failure.writePersisted] using takenBack
    case failure => rfl
    case own => exact own
    case first => exact first
    case distinct => exact List.pairwise_singleton _ _
    case kept =>
      intro s isStray
      cases isStray
    case inert =>
      intro _ s isStray
      cases isStray

theorem Unwound.of_done (absent : role ∉ (f.indexOf k).rolesOf user domain)
    (named : ∀ user ∈ rest, user ≠ "") {id : String}
    (committed : Fleet.Committed f k id .insert (.assignment ⟨user, role, domain⟩) (.ok ()) early g)
    (inertKept : f.Inert → g.Inert)
    (unwound : Unwound g k rest role domain (⟨user, role, domain⟩ :: made) cause late tried stray
      undone) :
    Unwound f k (user :: rest) role domain made cause (early ++ late)
      (tried ++ [⟨user, role, domain⟩]) stray undone := by
  obtain ⟨relations, current⟩ := committed.current
  have holds (fact : Fact) : g.relations.Holds fact ↔
      fact = .assignment ⟨user, role, domain⟩ ∨ f.relations.Holds fact := by
    rw [relations]
    exact Relations.holds_insert
  -- From here on the index is current, so nothing that follows was stored before.
  have new : ∀ a ∈ tried ++ stray.toList.map Stray.assignment,
      ¬ g.relations.Holds (.assignment a) := unwound.new current named
  have fresh : ∀ a ∈ tried ++ stray.toList.map Stray.assignment,
      ¬ f.relations.Holds (.assignment a) :=
    fun a member before => new a member ((holds _).mpr (.inr before))
  have cases {a : Assignment}
      (member : a ∈ tried ++ [⟨user, role, domain⟩] ++ stray.toList.map Stray.assignment) :
      a = ⟨user, role, domain⟩ ∨ a ∈ tried ++ stray.toList.map Stray.assignment := by
    simp only [List.mem_append, List.mem_singleton] at member ⊢
    grind
  have straying {s : Stray} (isStray : s ∈ stray) :
      s.assignment ∈ tried ++ stray.toList.map Stray.assignment := by
    rw [Option.mem_def.mp isStray]
    simp
  constructor
  case writes =>
    have inserted : early.filter Deed.isWrite = [insertion ⟨user, role, domain⟩] := by
      cases committed with
      | done _ index =>
        have stored : g.relations.stores (.assignment ⟨user, role, domain⟩) = true :=
          Relations.stores_iff.mpr ((holds _).mpr (.inl rfl))
        rw [stored]
        rfl
    rw [List.filter_append, inserted, unwound.writes]
    simp
  case takenBack =>
    rw [unwound.takenBack]
    simp
  case failure =>
    have silent : early.findSome? Deed.failure? = none := by
      cases committed with
      | done => rfl
    rw [List.findSome?_append, silent, unwound.failure]
    rfl
  case own =>
    intro a member
    rcases cases member with rfl | later
    · exact ⟨List.mem_cons_self, rfl⟩
    · obtain ⟨listed, same⟩ := unwound.own a later
      exact ⟨List.mem_cons_of_mem _ listed, same⟩
  case first =>
    intro a member before
    rcases cases member with rfl | later
    · exact find?_unlisted absent
    · exact absurd before (fresh a later)
  case distinct =>
    rw [List.nodup_append]
    refine ⟨unwound.distinct, List.pairwise_singleton _ _, ?_⟩
    intro a inTried b isNew same
    rw [List.mem_singleton.mp isNew] at same
    exact new a (List.mem_append_left _ inTried) ((holds _).mpr (.inl (by rw [same])))
  case kept =>
    intro s isStray before
    exact absurd before (fresh _ (straying isStray))
  case inert =>
    intro inert s isStray stored
    exact absurd (unwound.inert (inertKept inert) s isStray stored) (new _ (straying isStray))

end Steps

theorem assignEach_unwinds (serves : f.Serves k) {users : List String} {made : List Assignment}
    {cause : Failure} (named : ∀ user ∈ users, user ≠ "")
    (failed : ((assignEach me role domain users made).run.run (handler k) f).1 = .error cause) :
    ∃ tried stray undone, Unwound f k users role domain made cause
        (deeds k (assignEach me role domain users made).run f) tried stray undone ∧
      (f.Inert → Tracked f k (deeds k (assignEach me role domain users made).run f)
        ((assignEach me role domain users made).run.run (handler k) f).2) := by
  induction users generalizing f made with
  | nil => cases failed
  | cons user rest ih =>
    have namedRest : ∀ user ∈ rest, user ≠ "" :=
      fun other member => named other (List.mem_cons_of_mem _ member)
    rcases assignEach_cases me serves user rest made with
      ⟨held, played, done⟩ | ⟨absent, result, early, g, committed, framed, played, done⟩
    -- The user is passed over.
    · rw [played] at failed ⊢
      rw [done]
      obtain ⟨tried, stray, undone, unwound, tracked⟩ := ih serves namedRest failed
      exact ⟨tried, stray, undone, unwound.of_listed held, tracked⟩
    · have later := serves.of_framed framed
      have tracked (inert : f.Inert) := committed.tracked fun _ => inert
      rw [played] at failed ⊢
      rw [done]
      cases result with
      | ok =>
        -- The batch fails with a later user.
        obtain ⟨tried, stray, undone, unwound, followed⟩ := ih later namedRest failed
        exact ⟨_, stray, undone,
          unwound.of_done absent namedRest committed fun inert => inert.of_framed framed,
          fun inert => (tracked inert).trans (followed (inert.of_framed framed))⟩
      | error reason =>
        -- It fails here, and everything is taken back.
        obtain ⟨returned, undone, takenBack, writes, followed⟩ :=
          continueBatch_error me later role domain user rest made reason
        rw [returned, Except.error.injEq] at failed
        subst failed
        obtain ⟨tried, stray, unwound⟩ := unwound_of_error absent committed takenBack writes
        exact ⟨tried, stray, undone, unwound, fun inert => (tracked inert).trans followed⟩

end Authority

end Entitlement
