import Entitlement.Proofs.AllOrNothing

/-!
# Without faults

While no fault is armed on the store, every change goes through: it takes effect in the store, and
the index of the replica is current again when the call returns.
-/

namespace Entitlement

namespace Relations

/-- Writes one fact after the other. -/
def writeAll (change : Change) (facts : List Fact) (r : Relations) : Relations :=
  facts.foldl (fun r fact => r.write change fact) r

theorem holds_writeAll_insert {facts : List Fact} {r : Relations} {fact : Fact} :
    (r.writeAll .insert facts).Holds fact ↔ fact ∈ facts ∨ r.Holds fact := by
  induction facts generalizing r with
  | nil => simp [writeAll]
  | cons first rest ih =>
    have step : r.writeAll .insert (first :: rest) = (r.insert first).writeAll .insert rest := rfl
    rw [step, ih, holds_insert, List.mem_cons, or_left_comm, or_assoc]

theorem holds_writeAll_delete {facts : List Fact} {r : Relations} {fact : Fact} :
    (r.writeAll .delete facts).Holds fact ↔ fact ∉ facts ∧ r.Holds fact := by
  induction facts generalizing r with
  | nil => simp [writeAll]
  | cons first rest ih =>
    have step : r.writeAll .delete (first :: rest) = (r.delete first).writeAll .delete rest := rfl
    rw [step, ih, holds_delete, List.mem_cons, not_or, and_left_comm, and_assoc]

/-- Only which facts are written matters. -/
theorem writeAll_congr {facts others : List Fact} {r : Relations} (change : Change)
    (same : ∀ fact, fact ∈ facts ↔ fact ∈ others) :
    r.writeAll change facts = r.writeAll change others := by
  refine ext_holds fun fact => ?_
  cases change with
  | insert => rw [holds_writeAll_insert, holds_writeAll_insert, same]
  | delete => rw [holds_writeAll_delete, holds_writeAll_delete, same]

end Relations

namespace Fleet

variable {k : Nat} {f g : Fleet}

/-- No fault is armed on the store. -/
def Quiet (f : Fleet) : Prop := f.storeFaults = []

theorem Quiet.not_armed (quiet : f.Quiet) {point : Point} {effect : StoreEffect} :
    ¬ f.Armed point effect := by
  rintro ⟨fault, member, -⟩
  rw [quiet] at member
  cases member

theorem Quiet.of_framed (quiet : f.Quiet) (framed : Framed k f g) : g.Quiet := by
  refine List.eq_nil_iff_forall_not_mem.mpr fun fault member => ?_
  obtain ⟨earlier, inFaults, -⟩ := framed.storeFaults fault member
  rw [quiet] at inFaults
  cases inFaults

/-- Replica `k` works without faults over a store that its index mirrors. -/
structure Steady (f : Fleet) (k : Nat) : Prop where
  serves : f.Serves k
  quiet : f.Quiet
  current : f.Current k

/-- The attempt returns, leaves the fleet steady, and turns the content into `r`. -/
structure Achieves (f : Fleet) (k : Nat) (attempt : Attempt Unit) (r : Relations) : Prop where
  result : (f.run k attempt).1 = .ok ()
  steady : (f.run k attempt).2.Steady k
  relations : (f.run k attempt).2.relations = r

theorem run_bind_of_ok {α β : Type} {first : Attempt α} {next : α → Attempt β} {value : α}
    (returned : (f.run k first).1 = .ok value) :
    f.run k (first >>= next) = (f.run k first).2.run k (next value) := by
  unfold Fleet.run at *
  rw [Attempt.run_bind, Call.run_bind, returned]

theorem Steady.note (steady : f.Steady k) (t : Trace) : (f.note t).Steady k :=
  ⟨⟨steady.serves.honest, steady.serves.present⟩, steady.quiet, steady.current⟩

theorem Achieves.done (steady : f.Steady k) : f.Achieves k (pure ()) f.relations :=
  ⟨rfl, steady, rfl⟩

theorem Achieves.bind {first : Attempt Unit} {next : Unit → Attempt Unit} {r s : Relations}
    (one : f.Achieves k first r)
    (two : ∀ g : Fleet, g.Steady k → g.relations = r → g.Achieves k (next ()) s) :
    f.Achieves k (first >>= next) s := by
  have later := two _ one.steady one.relations
  constructor
  · rw [run_bind_of_ok one.result]
    exact later.result
  · rw [run_bind_of_ok one.result]
    exact later.steady
  · rw [run_bind_of_ok one.result]
    exact later.relations

theorem Achieves.of_note (steady : f.Steady k) (e : Event) :
    f.Achieves k (Call.note e : Attempt Unit) f.relations :=
  ⟨rfl, steady.note _, rfl⟩

theorem Achieves.of_check {α : Type} {check : Except Failure α} {value : α}
    {next : α → Attempt Unit} {r : Relations} (passed : check = .ok value)
    (rest : f.Achieves k (next value) r) : f.Achieves k (liftM check >>= next) r := by
  subst passed
  exact ⟨rest.result, rest.steady, rest.relations⟩

/-! ### Commits -/

/-- Without faults there is only one way in which a commit can go, whatever the index was before. -/
theorem Quiet.of_committed (quiet : f.Quiet) (serves : f.Serves k) {id : String} {change : Change}
    {fact : Fact} {result : Except Failure Unit} {done : List Deed}
    (committed : Committed f k id change fact result done g) (framed : Framed k f g) :
    result = .ok () ∧ g.Steady k ∧ g.relations = f.relations.write change fact := by
  cases committed with
  | refused armed => exact absurd armed quiet.not_armed
  | stale armed => exact absurd armed quiet.not_armed
  | done relations index =>
    refine ⟨rfl, ?_, relations⟩
    exact ⟨serves.of_framed framed, quiet.of_framed framed, index⟩

theorem achieves_commit (serves : f.Serves k) (quiet : f.Quiet) (id : String) (change : Change)
    (fact : Fact) :
    f.Achieves k (Replica.commit id change fact) (f.relations.write change fact) := by
  obtain ⟨result, done, g, played, -, committed, framed⟩ := exists_committed serves id change fact
  obtain ⟨returned, later, relations⟩ := quiet.of_committed serves committed framed
  constructor <;> simp only [Fleet.run, played]
  · exact returned
  · exact later
  · exact relations

end Fleet

namespace Authority

open Fleet (Achieves Steady achieves_commit)

variable {k : Nat} {f : Fleet} (me : Profile)

/-! ### The operations -/

theorem achieves_commitGrants (steady : f.Steady k) (change : Change) (grants : List Grant) :
    f.Achieves k (commitGrants me change grants)
      (f.relations.writeAll change (grants.map .grant)) := by
  induction grants generalizing f with
  | nil => exact .done steady
  | cons g rest ih =>
    have first := achieves_commit steady.serves steady.quiet me.id change (.grant g)
    refine first.bind fun later steady relations => ?_
    have step : f.relations.writeAll change ((g :: rest).map .grant) =
        (f.relations.write change (.grant g)).writeAll change (rest.map .grant) := rfl
    rw [step, ← relations]
    exact ih steady

/-- Without faults every user of a batch is assigned or passed over. -/
theorem assignEach_returns (steady : f.Steady k) (role domain : String) (users : List String)
    (made : List Assignment) :
    ((assignEach me role domain users made).run.run (Fleet.handler k) f).1 = .ok () := by
  induction users generalizing f made with
  | nil => rfl
  | cons user rest ih =>
    rcases assignEach_cases me steady.serves user rest made with
      ⟨-, played, -⟩ | ⟨-, result, early, g, committed, framed, played, -⟩
    -- The user is passed over.
    · rw [played]
      exact ih steady made
    · obtain ⟨rfl, later, -⟩ := steady.quiet.of_committed steady.serves committed framed
      rw [played]
      exact ih later _

section Met

variable {user role domain object : String} {actions users : List String}

/-- Grants that are checked are written one after the other; `e` is what is noted of them. -/
theorem achieves_checkedGrants (steady : f.Steady k)
    (met : Demand.check (grantDemands role domain object actions) = .ok ()) (change : Change)
    (e : Nat → Event) :
    f.Achieves k
      (do
        let grants ← checkedGrants role domain object actions
        commitGrants me change grants
        Call.note (e grants.length))
      (f.relations.writeAll change
        (actions.map fun action => .grant ⟨role, domain, object, action⟩)) := by
  have checked : checkedGrants role domain object actions =
      .ok ((distinct actions).map fun action => ⟨role, domain, object, action⟩) := by
    rw [checkedGrants_eq, met]
    rfl
  -- Repeated actions are dropped, which leaves the same facts to write.
  have same : f.relations.writeAll change
        (((distinct actions).map fun action => ⟨role, domain, object, action⟩).map .grant) =
      f.relations.writeAll change
        (actions.map fun action => .grant ⟨role, domain, object, action⟩) := by
    refine Relations.writeAll_congr change fun fact => ?_
    simp
  refine Achieves.of_check checked ?_
  refine (achieves_commitGrants me steady change _).bind fun later steady relations => ?_
  rw [← same, ← relations]
  exact .of_note steady _

theorem achieves_grant (steady : f.Steady k)
    (met : Demand.check (grantDemands role domain object actions) = .ok ()) :
    f.Achieves k (grant me role domain object actions)
      (f.relations.writeAll .insert
        (actions.map fun action => .grant ⟨role, domain, object, action⟩)) :=
  achieves_checkedGrants me steady met .insert (.granted role domain object)

theorem achieves_revoke (steady : f.Steady k)
    (met : Demand.check (grantDemands role domain object actions) = .ok ()) :
    f.Achieves k (revoke me role domain object actions)
      (f.relations.writeAll .delete
        (actions.map fun action => .grant ⟨role, domain, object, action⟩)) :=
  achieves_checkedGrants me steady met .delete (.revoked role domain object)

theorem achieves_checkedAssignment (serves : f.Serves k) (quiet : f.Quiet)
    (met : Demand.check (assignmentDemands user role domain) = .ok ()) (change : Change)
    (e : Event) :
    f.Achieves k
      (do
        let assignment ← checkedAssignment user role domain
        Replica.commit me.id change (.assignment assignment)
        Call.note e)
      (f.relations.writeAll change [.assignment ⟨user, role, domain⟩]) := by
  have checked : checkedAssignment user role domain = .ok ⟨user, role, domain⟩ := by
    rw [checkedAssignment_eq, met]
    rfl
  refine Achieves.of_check checked ?_
  refine (achieves_commit serves quiet me.id change _).bind fun later steady relations => ?_
  have same : f.relations.writeAll change [.assignment ⟨user, role, domain⟩] =
      later.relations := relations.symm
  rw [same]
  exact .of_note steady _

theorem achieves_assign (serves : f.Serves k) (quiet : f.Quiet)
    (met : Demand.check (assignmentDemands user role domain) = .ok ()) :
    f.Achieves k (assign me user role domain)
      (f.relations.writeAll .insert [.assignment ⟨user, role, domain⟩]) :=
  achieves_checkedAssignment me serves quiet met .insert (.assigned user role domain)

theorem achieves_unassign (serves : f.Serves k) (quiet : f.Quiet)
    (met : Demand.check (assignmentDemands user role domain) = .ok ()) :
    f.Achieves k (unassign me user role domain)
      (f.relations.writeAll .delete [.assignment ⟨user, role, domain⟩]) :=
  achieves_checkedAssignment me serves quiet met .delete (.unassigned user role domain)

theorem achieves_assignAll (steady : f.Steady k)
    (met : Demand.check (usersDemands users role domain) = .ok ()) :
    f.Achieves k (assignAll me users role domain)
      (f.relations.writeAll .insert
        (users.map fun user => .assignment ⟨user, role, domain⟩)) := by
  have returns := assignEach_returns me steady role domain users []
  have framed := Fleet.framed_run k (assignEach me role domain users []).run f
  obtain ⟨holds, current⟩ :=
    assignEach_ok me steady.serves steady.current (named_of_check met) returns
  constructor <;> simp only [Fleet.run, assignAll_of_check me met]
  · exact returns
  · exact ⟨steady.serves.of_framed framed, steady.quiet.of_framed framed, current⟩
  · refine Relations.ext_holds fun fact => ?_
    rw [holds, Relations.holds_writeAll_insert, List.mem_map, or_comm]
    simp only [eq_comm]

end Met

end Authority

end Entitlement
