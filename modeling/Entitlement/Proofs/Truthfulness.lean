import Entitlement.Proofs.Mutation
import Entitlement.Proofs.Refinement

/-!
# What a failure says of the store

A failure carries a flag that is to say whether the call that it ends has changed the store all the
same. The flag is right about every single commit. It is decided by the failure alone, though, and
an operation that makes several commits, or wraps the failure of one, can change the store under a
failure without the flag. Refused writes are taken to change nothing here.
-/

namespace Entitlement

open Fleet (Committed Framed Serves deeds handler)

def Deed.accepted? : Deed → Option Fact
  | wrote _ fact none _ => some fact
  | _ => none

/-- The facts of the writes that the store accepted. -/
def accepted (done : List Deed) : List Fact := done.filterMap Deed.accepted?

theorem accepted_append (early late : List Deed) :
    accepted (early ++ late) = accepted early ++ accepted late := List.filterMap_append

namespace Relations

variable {r : Relations} {facts : List Fact}

theorem writeAll_append (change : Change) (early late : List Fact) :
    r.writeAll change (early ++ late) = (r.writeAll change early).writeAll change late :=
  List.foldl_append

theorem writeAll_insert_eq_self_iff :
    r.writeAll .insert facts = r ↔ ∀ fact ∈ facts, r.Holds fact := by
  constructor
  · intro same fact listed
    rw [← same, holds_writeAll_insert]
    exact .inl listed
  · intro stored
    apply ext_holds
    intro fact
    rw [holds_writeAll_insert]
    constructor
    · rintro (listed | before)
      · exact stored fact listed
      · exact before
    · exact .inr

theorem writeAll_delete_eq_self_iff :
    r.writeAll .delete facts = r ↔ ∀ fact ∈ facts, ¬ r.Holds fact := by
  constructor
  · intro same fact listed
    rw [← same, holds_writeAll_delete]
    exact fun holds => holds.1 listed
  · intro absent
    apply ext_holds
    intro fact
    rw [holds_writeAll_delete]
    constructor
    · exact And.right
    · exact fun before => ⟨fun listed => absent fact listed before, before⟩

theorem writeAll_insert_ne_self_iff :
    r.writeAll .insert facts ≠ r ↔ ∃ fact ∈ facts, ¬ r.Holds fact := by
  simp [writeAll_insert_eq_self_iff]

theorem writeAll_delete_ne_self_iff :
    r.writeAll .delete facts ≠ r ↔ ∃ fact ∈ facts, r.Holds fact := by
  simp [writeAll_delete_eq_self_iff]

theorem ne_iff {t : Relations} : r ≠ t ↔ ∃ fact, ¬ (r.Holds fact ↔ t.Holds fact) := by
  rw [← Classical.not_forall]
  apply not_congr
  constructor
  · rintro rfl fact
    rfl
  · exact ext_holds

end Relations

/-- A request that lacks something fails before anything is written, and without the flag. -/
theorem Demand.writePersisted_of_check {demands : List Demand} {cause : Failure}
    (unmet : Demand.check demands = .error cause) : cause.writePersisted = false := by
  unfold Demand.check at unmet
  split at unmet
  · cases unmet
  · cases unmet
    rfl

theorem Failure.writePersisted_iff {cause : Failure} :
    cause.writePersisted = true ↔ ∃ reason, cause = .stale reason := by
  cases cause <;> simp [writePersisted]

namespace Fleet

variable {k : Nat} {f g : Fleet} {change : Change} {fact : Fact}

/-- No write that is refused takes effect. -/
def Harmless (f : Fleet) : Prop :=
  ∀ change fact effect, f.Armed (Occasion.ofWrite change fact).point effect →
    effect.persists = false

theorem Harmless.of_framed (harmless : f.Harmless) (framed : Framed k f g) : g.Harmless :=
  fun change fact effect armed => harmless change fact effect (armed.of_framed framed)

theorem Harmless.inert (harmless : f.Harmless) : f.Inert := by
  intro effect armed
  apply harmless .insert default effect
  rw [Occasion.point_ofWrite_insert]
  exact armed

section Commits

variable {id : String} {result : Except Failure Unit} {done : List Deed}

/-- A commit writes what the store accepts of it. -/
theorem Harmless.relations_of_committed (harmless : f.Harmless)
    (committed : Committed f k id change fact result done g) :
    g.relations = f.relations.writeAll change (accepted done) := by
  cases committed with
  | refused armed relations index =>
    rw [harmless change fact _ armed] at relations
    exact relations
  | done relations index => exact relations
  | stale armed relations index => exact relations

/-- A commit that fails has written exactly if its failure says so. -/
theorem Harmless.relations_of_failed {cause : Failure} (harmless : f.Harmless)
    (committed : Committed f k id change fact (.error cause) done g) :
    g.relations = if cause.writePersisted then f.relations.write change fact else f.relations := by
  cases committed with
  | refused armed relations index =>
    rw [harmless change fact _ armed] at relations
    exact relations
  | stale armed relations index => exact relations

end Commits

end Fleet

namespace Authority

variable (me : Profile) {k : Nat} {f : Fleet} {change : Change} {cause : Failure}
  {user role domain object : String} {users : List String}

/-! ### Grants -/

/-- The attempt leaves behind what the store accepted of its changes, and if it fails, then with the
failure of one commit. -/
structure Accepts (f : Fleet) (k : Nat) (change : Change) (attempt : Attempt Unit) : Prop where
  relations : (f.run k attempt).2.relations =
    f.relations.writeAll change (accepted (deeds k attempt.run f))
  failure : ∀ cause, (f.run k attempt).1 = .error cause →
    cause.writePersisted = true ∨ ∃ reason, cause = .store reason

theorem accepts_commitGrants (serves : f.Serves k) (harmless : f.Harmless) (change : Change)
    (grants : List Grant) : Accepts f k change (commitGrants me change grants) := by
  induction grants generalizing f with
  | nil => exact ⟨rfl, nofun⟩
  | cons g rest ih =>
    obtain ⟨result, done, later, played, deeds, committed, framed⟩ :=
      Fleet.exists_committed serves me.id change (.grant g)
    have written := harmless.relations_of_committed committed
    cases result with
    | error cause =>
      constructor
      · simpa [Fleet.run, commitGrants, played, deeds] using written
      · intro reported failed
        have same : reported = cause := by
          simpa [Fleet.run, commitGrants, played, eq_comm] using failed
        rw [same]
        cases committed with
        | refused => exact .inr ⟨_, rfl⟩
        | stale => exact .inl rfl
    | ok =>
      have accepts := ih (serves.of_framed framed) (harmless.of_framed framed)
      have run : f.run k (commitGrants me change (g :: rest)) =
          later.run k (commitGrants me change rest) := by
        simp [Fleet.run, commitGrants, played]
      constructor
      · rw [run, accepts.relations, written, ← Relations.writeAll_append, ← accepted_append]
        simp [commitGrants, played, deeds]
      · rw [run]
        exact accepts.failure

/-- A note at the end accepts nothing and fails nothing. -/
theorem Accepts.note {attempt : Attempt Unit} (accepts : Accepts f k change attempt) (e : Event) :
    Accepts f k change (attempt >>= fun _ => Call.note e) := by
  have relations := accepts.relations
  have failure := accepts.failure
  unfold Fleet.run at relations failure
  cases result : (attempt.run.run (handler k) f).1 with
  | ok =>
    constructor
    · simpa [Fleet.run, Call.note, Call.perform, handler, Fleet.deed?, result] using relations
    · intro cause failed
      simp [Fleet.run, Call.note, Call.perform, result] at failed
  | error reason =>
    constructor
    · simpa [Fleet.run, result] using relations
    · intro cause failed
      apply failure
      simpa [Fleet.run, result] using failed

/-- Grants whose demands are met; `e` is what is noted of them in the end. -/
theorem accepts_checkedGrants (serves : f.Serves k) (harmless : f.Harmless)
    {actions : List String} (met : Demand.check (grantDemands role domain object actions) = .ok ())
    (change : Change) (e : Nat → Event) :
    Accepts f k change (do
      let grants ← checkedGrants role domain object actions
      commitGrants me change grants
      Call.note (e grants.length)) := by
  have accepts := accepts_commitGrants me serves harmless change
    ((distinct actions).map fun action => ⟨role, domain, object, action⟩)
  have noted := accepts.note (e ((distinct actions).map fun action =>
    (⟨role, domain, object, action⟩ : Grant)).length)
  rw [checkedGrants_eq, met]
  exact ⟨noted.relations, noted.failure⟩

/-- The same whether or not the demands are met: without them nothing is written. -/
theorem relations_of_checkedGrants (serves : f.Serves k) (harmless : f.Harmless)
    (role domain object : String) (actions : List String) (change : Change) (e : Nat → Event) :
    let attempt : Attempt Unit := do
      let grants ← checkedGrants role domain object actions
      commitGrants me change grants
      Call.note (e grants.length)
    (f.run k attempt).2.relations = f.relations.writeAll change (accepted (deeds k attempt.run f)) ∧
      ((f.run k attempt).1 = .error cause → cause.writePersisted = false →
        (f.run k attempt).2.relations ≠ f.relations → ∃ reason, cause = .store reason) := by
  intro attempt
  cases met : Demand.check (grantDemands role domain object actions) with
  | error unmet =>
    have unmoved : attempt.run = .done (.error unmet) := by
      simp [attempt, checkedGrants_eq, met, Except.map]
    rw [Fleet.run, unmoved]
    exact ⟨rfl, fun _ _ changed => absurd rfl changed⟩
  | ok =>
    have accepts : Accepts f k change attempt :=
      accepts_checkedGrants me serves harmless met change e
    refine ⟨accepts.relations, fun failed unflagged _ => ?_⟩
    rcases accepts.failure cause failed with flagged | stored
    · rw [unflagged] at flagged
      cases flagged
    · exact stored

/-! ### Single assignments -/

/-- An assignment that is checked, committed and noted is written exactly if a failure says so. -/
theorem relations_of_checkedAssignment (serves : f.Serves k) (harmless : f.Harmless)
    (change : Change) (e : Event) :
    let attempt : Attempt Unit := do
      let assignment ← checkedAssignment user role domain
      Replica.commit me.id change (.assignment assignment)
      Call.note e
    (f.run k attempt).1 = .error cause → (f.run k attempt).2.relations =
      if cause.writePersisted then f.relations.write change (.assignment ⟨user, role, domain⟩)
      else f.relations := by
  intro attempt failed
  cases met : Demand.check (assignmentDemands user role domain) with
  | error unmet =>
    have run : f.run k attempt = (.error unmet, f) := by
      simp [attempt, Fleet.run, checkedAssignment_eq, met, Except.map]
    rw [run] at failed ⊢
    cases failed
    rw [Demand.writePersisted_of_check met]
    rfl
  | ok =>
    obtain ⟨result, done, later, played, -, committed, -⟩ :=
      Fleet.exists_committed serves me.id change (.assignment ⟨user, role, domain⟩)
    cases result with
    | ok => simp [attempt, Fleet.run, checkedAssignment_eq, met, Except.map, played, Call.note,
        Call.perform] at failed
    | error reason =>
      have run : f.run k attempt = (.error reason, later) := by
        simp [attempt, Fleet.run, checkedAssignment_eq, met, Except.map, played]
      rw [run] at failed ⊢
      cases failed
      exact harmless.relations_of_failed committed

theorem relations_of_assign (serves : f.Serves k) (harmless : f.Harmless)
    (failed : (f.run k (assign me user role domain)).1 = .error cause) :
    (f.run k (assign me user role domain)).2.relations =
      if cause.writePersisted then f.relations.write .insert (.assignment ⟨user, role, domain⟩)
      else f.relations :=
  relations_of_checkedAssignment me serves harmless .insert (.assigned user role domain) failed

theorem relations_of_unassign (serves : f.Serves k) (harmless : f.Harmless)
    (failed : (f.run k (unassign me user role domain)).1 = .error cause) :
    (f.run k (unassign me user role domain)).2.relations =
      if cause.writePersisted then f.relations.write .delete (.assignment ⟨user, role, domain⟩)
      else f.relations :=
  relations_of_checkedAssignment me serves harmless .delete (.unassigned user role domain) failed

/-! ### Namespaces -/

theorem run_outcome {α β : Type} (attempt : Attempt α) (next : Except Failure α → Attempt β) :
    f.run k (attempt.outcome >>= next) =
      (f.run k attempt).2.run k (next (f.run k attempt).1) := by
  simp [Fleet.run]

/-- A creation that fails has changed the relations in one case only: its assignment is stored, the
index could not follow, and the failure that says so is wrapped in one that does not. -/
theorem relations_of_createNamespace (serves : f.Serves k) (harmless : f.Harmless)
    {creator : String} {record : Namespace}
    (failed : (f.run k (createNamespace me creator record)).1 = .error cause) :
    ((f.run k (createNamespace me creator record)).2.relations = f.relations ∧
      ∀ reason, cause ≠ .orphaned record.name (.stale reason)) ∨
    ∃ reason, cause = .orphaned record.name (.stale reason) ∧
      (f.run k (createNamespace me creator record)).2.relations =
        f.relations.write .insert (.assignment ⟨creator, me.adminRole, record.name⟩) := by
  have run : f.run k (createNamespace me creator record) =
      f.run k (createNamespace me creator record) := rfl
  -- As long as nothing is assigned, the relations are left alone.
  have early {reason : Failure} {g : Fleet}
      (run : f.run k (createNamespace me creator record) = (.error reason, g))
      (relations : g.relations = f.relations)
      (other : ∀ inner, reason ≠ .orphaned record.name (.stale inner)) :
      (f.run k (createNamespace me creator record)).2.relations = f.relations ∧
        ∀ inner, cause ≠ .orphaned record.name (.stale inner) := by
    rw [run] at failed ⊢
    exact ⟨relations, Except.error.inj failed ▸ other⟩
  have registers := Fleet.keeps_register { record with createdBy := creator } f
  conv at run =>
    rhs
    simp only [createNamespace, run_required, Fleet.run_register, run_outcome]
  split at run
  next =>
    split at run
    next =>
      split at run
      next answered =>
        have framed := Framed.of_keeps (k := k) registers
        split at run
        next assigned =>
          -- The creation succeeds.
          rw [run] at failed
          simp [Fleet.run, Call.note, Call.perform] at failed
        next reason assigned =>
          have written := relations_of_assign me (serves.of_framed framed)
            (harmless.of_framed framed) assigned
          rw [registers.relations] at written
          have wrapped : f.run k (createNamespace me creator record) =
              (.error (.orphaned record.name reason), _) := run
          cases flag : reason.writePersisted with
          | false =>
            rw [flag, if_neg Bool.false_ne_true] at written
            refine .inl (early wrapped written ?_)
            rintro inner ⟨⟩
            cases flag
          | true =>
            rw [flag, if_pos rfl] at written
            obtain ⟨inner, rfl⟩ := Failure.writePersisted_iff.mp flag
            rw [wrapped] at failed ⊢
            exact .inr ⟨inner, (Except.error.inj failed).symm, written⟩
      next reason refused =>
        refine .inl (early run registers.relations ?_)
        rintro inner ⟨⟩
    next =>
      refine .inl (early run rfl ?_)
      rintro inner ⟨⟩
  next =>
    refine .inl (early run rfl ?_)
    rintro inner ⟨⟩

/-! ### Batches -/

/-- The store holds something else about the fact than before: the fact was new and is left over, or
it was there and a deletion has taken it. -/
theorem Unwound.moved_iff {g : Fleet} {done : List Deed} {tried : List Assignment}
    {stray : Option Stray} {undone : List Undoing}
    (unwound : Unwound f k users role domain [] cause done tried stray undone)
    (content : ∀ fact, g.relations.stores fact =
      (done.filterMap (Deed.storedOf? fact)).getLast?.getD (f.relations.stores fact))
    (inert : f.Inert) (fact : Fact) :
    ¬ (g.relations.Holds fact ↔ f.relations.Holds fact) ↔
      (¬ f.relations.Holds fact ∧ Leftover done fact) ∨
      (f.relations.Holds fact ∧ ∃ refused, .wrote .delete fact refused false ∈ done) := by
  have deleted {refused : Option StoreFailure} {stored : Bool}
      (member : .wrote .delete fact refused stored ∈ done) : g.relations.stores fact = stored := by
    obtain ⟨u, inUndone, rfl, -, rfl⟩ := unwound.mem_done_delete.mp member
    exact unwound.stores_of_undone content inUndone
  constructor
  · intro moved
    by_cases undoing : ∃ u ∈ undone, fact = .assignment u.assignment
    · obtain ⟨u, member, rfl⟩ := undoing
      have tells := unwound.stores_of_undone content member
      have isDeleted : .wrote .delete (.assignment u.assignment) u.refused u.stored ∈ done :=
        unwound.mem_done_delete.mpr ⟨u, member, rfl, rfl, rfl⟩
      rw [← Relations.stores_iff, tells] at moved
      cases stored : u.stored with
      | false =>
        have before : f.relations.Holds (.assignment u.assignment) := by
          simpa [stored] using moved
        exact .inr ⟨before, u.refused, stored ▸ isDeleted⟩
      | true =>
        have new : ¬ f.relations.Holds (.assignment u.assignment) := by
          simpa [stored] using moved
        refine .inl ⟨new, unwound.mem_done_insert (unwound.mem_tried member), ?_⟩
        cases refusing : u.refused with
        | none =>
          -- A deletion that is accepted takes effect.
          rw [u.gone refusing] at stored
          cases stored
        | some refusal =>
          rw [refusing, stored] at isDeleted
          exact ⟨refusal, isDeleted⟩
    -- About any other fact only a refused insertion says anything.
    · have same := unwound.stores_of_not_undone content
        fun u member same => undoing ⟨u, member, same⟩
      exact absurd ⟨same.2 inert, same.1⟩ moved
  · rintro (⟨new, -, refusal, left⟩ | ⟨before, refused, lost⟩) same
    · exact new (same.mp (Relations.stores_iff.mp (deleted left)))
    · have stays := Relations.stores_iff.mpr (same.mpr before)
      rw [deleted lost] at stays
      cases stays

theorem Unwound.cause_cases {done : List Deed} {tried : List Assignment} {stray : Option Stray}
    {undone : List Undoing}
    (unwound : Unwound f k users role domain [] cause done tried stray undone) :
    cause.writePersisted = true ∨ ∃ reason, cause = .store reason := by
  obtain ⟨deed, -, failure⟩ := List.exists_of_findSome?_eq_some unwound.failure
  cases deed with
  | wrote _ _ refused _ =>
    obtain ⟨reason, -, rfl⟩ := Option.map_eq_some_iff.mp failure
    exact .inr ⟨reason, rfl⟩
  | rebuilt stopped =>
    obtain ⟨reason, -, rfl⟩ := Option.map_eq_some_iff.mp failure
    exact .inl rfl
  | signalled => cases failure

end Authority

/-! ### The exceptions -/

/-- The failure does not carry the flag although the mutation, whose deeds are `done`, has changed
the relations. -/
inductive Misreports (me : Profile) (f : Fleet) (done : List Deed) : Mutation → Failure → Prop
  /-- A grant was new and went through before another one was refused. -/
  | granted {role domain object : String} {actions : List String} {fact : Fact}
      {reason : StoreFailure} (went : fact ∈ accepted done) (new : ¬ f.relations.Holds fact) :
      Misreports me f done (.grant role domain object actions) (.store reason)
  | revoked {role domain object : String} {actions : List String} {fact : Fact}
      {reason : StoreFailure} (went : fact ∈ accepted done) (old : f.relations.Holds fact) :
      Misreports me f done (.revoke role domain object actions) (.store reason)
  /-- The batch could not take back what it had added. -/
  | leftover {users : List String} {role domain : String} {fact : Fact} {reason : StoreFailure}
      (left : Authority.Leftover done fact) (new : ¬ f.relations.Holds fact) :
      Misreports me f done (.assignAll users role domain) (.store reason)
  /-- The batch took away what was there before it. -/
  | lost {users : List String} {role domain : String} {fact : Fact} {reason : StoreFailure}
      {refused : Option StoreFailure} (gone : .wrote .delete fact refused false ∈ done)
      (old : f.relations.Holds fact) :
      Misreports me f done (.assignAll users role domain) (.store reason)
  /-- The failure of the assignment, which carries the flag, is wrapped. -/
  | wrapped {creator : String} {record : Namespace} {reason : Failure}
      (new : ¬ f.relations.Holds (.assignment ⟨creator, me.adminRole, record.name⟩)) :
      Misreports me f done (.createNamespace creator record)
        (.orphaned record.name (.stale reason))

namespace Mutation

variable (me : Profile) {k : Nat} {f : Fleet} {m : Mutation} {cause : Failure}

theorem unflagged_of_misreports {done : List Deed} (misreports : Misreports me f done m cause) :
    cause.writePersisted = false := by
  cases misreports <;> rfl

/-- Under a failure without the flag, the exceptions are all there is. -/
theorem changed_iff_misreports (serves : f.Serves k) (harmless : f.Harmless)
    (failed : (f.run k (m.attempt me)).1 = .error cause) (unflagged : cause.writePersisted = false) :
    (f.run k (m.attempt me)).2.relations ≠ f.relations ↔
      Misreports me f (deeds k (m.attempt me).run f) m cause := by
  cases m with
  | grant role domain object actions =>
    obtain ⟨relations, stored⟩ := Authority.relations_of_checkedGrants me serves harmless role domain
      object actions .insert (.granted role domain object)
    rw [attempt, Authority.grant, relations] at *
    rw [Relations.writeAll_insert_ne_self_iff] at *
    constructor
    · rintro ⟨fact, went, new⟩
      obtain ⟨reason, rfl⟩ := stored failed unflagged ⟨fact, went, new⟩
      exact .granted went new
    · intro misreports
      cases misreports with
      | granted went new => exact ⟨_, went, new⟩
  | revoke role domain object actions =>
    obtain ⟨relations, stored⟩ := Authority.relations_of_checkedGrants me serves harmless role domain
      object actions .delete (.revoked role domain object)
    rw [attempt, Authority.revoke, relations] at *
    rw [Relations.writeAll_delete_ne_self_iff] at *
    constructor
    · rintro ⟨fact, went, old⟩
      obtain ⟨reason, rfl⟩ := stored failed unflagged ⟨fact, went, old⟩
      exact .revoked went old
    · intro misreports
      cases misreports with
      | revoked went old => exact ⟨_, went, old⟩
  | assign user role domain =>
    have written := Authority.relations_of_assign me serves harmless failed
    rw [unflagged, if_neg Bool.false_ne_true] at written
    constructor
    · exact fun changed => absurd written changed
    · intro misreports
      cases misreports
  | unassign user role domain =>
    have written := Authority.relations_of_unassign me serves harmless failed
    rw [unflagged, if_neg Bool.false_ne_true] at written
    constructor
    · exact fun changed => absurd written changed
    · intro misreports
      cases misreports
  | assignAll users role domain =>
    cases met : Demand.check (usersDemands users role domain) with
    | error unmet =>
      have unmoved : (attempt me (.assignAll users role domain)).run = .done (.error unmet) :=
        Authority.assignAll_of_check_error me met
      rw [Fleet.run, unmoved] at failed ⊢
      cases failed
      constructor
      · exact fun changed => absurd rfl changed
      · intro misreports
        cases misreports with
        | leftover left => cases left.1
        | lost gone => cases gone
    | ok =>
      have same : (attempt me (.assignAll users role domain)).run =
          (Authority.assignEach me role domain users []).run := Authority.assignAll_of_check me met
      rw [Fleet.run, same] at failed ⊢
      obtain ⟨tried, stray, undone, unwound, -⟩ :=
        Authority.assignEach_unwinds me serves (Authority.named_of_check met) failed
      have moved := Authority.Unwound.moved_iff unwound
        (fun fact => Fleet.stores_run (Authority.assignEach me role domain users []).run fact f)
        harmless.inert
      have stored : ∃ reason, cause = .store reason := by
        apply (Authority.Unwound.cause_cases unwound).resolve_left
        rw [unflagged]
        exact Bool.false_ne_true
      obtain ⟨reason, rfl⟩ := stored
      rw [Relations.ne_iff]
      simp only [moved]
      constructor
      · rintro ⟨fact, ⟨new, left⟩ | ⟨old, refused, gone⟩⟩
        · exact .leftover left new
        · exact .lost gone old
      · intro misreports
        cases misreports with
        | leftover left new => exact ⟨_, .inl ⟨new, left⟩⟩
        | lost gone old => exact ⟨_, .inr ⟨old, _, gone⟩⟩
  | createNamespace creator record =>
    simp only [attempt, run_map] at failed ⊢
    cases result : (f.run k (Authority.createNamespace me creator record)).1 with
    | ok created => simp [result, Except.map] at failed
    | error reason =>
      simp only [result, Except.map, Except.error.injEq] at failed
      subst failed
      rcases Authority.relations_of_createNamespace me serves harmless result with
        ⟨relations, other⟩ | ⟨inner, rfl, relations⟩
      · constructor
        · exact fun changed => absurd relations changed
        · rintro ⟨⟩
          exact absurd rfl (other _)
      · have single (fact : Fact) : f.relations.write .insert fact =
            f.relations.writeAll .insert [fact] := rfl
        rw [relations, single, Relations.writeAll_insert_ne_self_iff]
        simp only [List.mem_singleton, exists_eq_left]
        constructor
        · exact .wrapped
        · intro misreports
          cases misreports with
          | wrapped new => exact new

/-- The failure of a mutation tells whether it has changed the relations, but for the exceptions. -/
theorem flagged_of_changed_iff (serves : f.Serves k) (harmless : f.Harmless)
    (failed : (f.run k (m.attempt me)).1 = .error cause) :
    ((f.run k (m.attempt me)).2.relations ≠ f.relations → cause.writePersisted = true) ↔
      ¬ Misreports me f (deeds k (m.attempt me).run f) m cause := by
  cases flag : cause.writePersisted with
  | true =>
    constructor
    · intro _ misreports
      rw [unflagged_of_misreports me misreports] at flag
      cases flag
    · exact fun _ _ => rfl
  | false =>
    rw [← changed_iff_misreports me serves harmless failed flag]
    simp

/-- A replica over an empty store that refuses to insert the permission to write. -/
def readable : Fleet :=
  { members := [some ⟨{ id := "a" }, .empty⟩],
    storeFaults := [Authority.refusing { point := .insert, action := some "write" } false] }

def readAndWrite : Mutation := .grant "editor" "docs" "doc" ["read", "write"]

theorem harmless_readable : readable.Harmless := by
  rintro change fact effect ⟨fault, member, -, rfl⟩
  rw [List.mem_singleton.mp member]
  rfl

theorem failed_readable : (readable.run 0 (readAndWrite.attempt { id := "a" })).1 =
    .error (.store (.unavailable "down")) := Fleet.refusal_eq_some_iff.mp (by decide +kernel)

/-- The permission to read is granted, and the failure does not say so. -/
theorem flagged_of_changed_iff_readable :
    Misreports { id := "a" } readable (deeds 0 (readAndWrite.attempt { id := "a" }).run readable)
      readAndWrite (.store (.unavailable "down")) := by
  have serves : readable.Serves 0 := ⟨rfl, rfl⟩
  have changed : (readable.run 0 (readAndWrite.attempt { id := "a" })).2.relations ≠
      readable.relations := by decide +kernel
  by_contra truthful
  have flagged := (flagged_of_changed_iff { id := "a" } serves harmless_readable
    failed_readable).mpr truthful changed
  cases flagged

theorem not_flagged_of_changed :
    readable.Serves 0 ∧ readable.Harmless ∧
    (readable.run 0 (readAndWrite.attempt { id := "a" })).1 =
      .error (.store (.unavailable "down")) ∧
    (readable.run 0 (readAndWrite.attempt { id := "a" })).2.relations ≠ readable.relations ∧
    (Failure.store (.unavailable "down")).writePersisted = false := by
  refine ⟨⟨rfl, rfl⟩, harmless_readable, failed_readable, ?_, rfl⟩
  decide +kernel

end Mutation

end Entitlement
