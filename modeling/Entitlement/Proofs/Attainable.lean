import Entitlement.Proofs.Refinement

/-!
# Contents that requests lead to

Every request checks its fields before it stores anything, so a store that only requests have
written to holds no fact with a blank field. Every content without such a fact can be reached.
-/

namespace Entitlement

/-- No field of the fact is blank. -/
def Fact.Given : Fact → Prop
  | grant g => ∀ field ∈ g.key, Text.isBlank field = false
  | assignment a => ∀ field ∈ a.key, Text.isBlank field = false

/-- What a store holds that was empty once and that only requests have written to, whatever
replicas served them and whatever faults struck. -/
inductive Attainable : Relations → Prop
  | empty : Attainable .empty
  | served {f : Fleet} (before : Attainable f.relations) (k : Nat) (me : Profile)
      (request : Policy.Request) : Attainable (f.run k (request.call me)).2.relations

def Action.inserted? : Action → Option Fact
  | .write .insert fact => some fact
  | _ => none

namespace Call

variable {α β : Type}

/-- Whatever the call is answered, it inserts only facts whose fields are given. -/
def Careful : Call α → Prop
  | done _ => True
  | act a next => (∀ fact, a.inserted? = some fact → fact.Given) ∧
      ∀ answer, (next answer).Careful

theorem Careful.bind {first : Call α} {next : α → Call β} (one : first.Careful)
    (two : ∀ value, (next value).Careful) : (first >>= next).Careful := by
  induction first with
  | done value => exact two value
  | act a rest ih => exact ⟨one.1, fun answer => ih answer (one.2 answer)⟩

theorem Careful.of_other {a : Action} {next : a.Answer → Call α}
    (other : a.inserted? = none) (rest : ∀ answer, (next answer).Careful) :
    (act a next).Careful := by
  refine ⟨fun fact inserts => ?_, rest⟩
  rw [other] at inserts
  cases inserts

theorem careful_perform {a : Action} (other : a.inserted? = none) : (perform a).Careful :=
  .of_other other fun _ => trivial

theorem careful_note (t : Trace) : (perform (.note t)).Careful := careful_perform rfl

theorem careful_look (question : Index → α) : (look question).Careful :=
  .bind (careful_perform rfl) fun _ => trivial

/-- By induction on the actions: only an insertion adds a fact. -/
theorem Careful.given_of_holds {call : Call α} (careful : call.Careful) (k : Nat) {f : Fleet}
    (given : ∀ fact, f.relations.Holds fact → fact.Given) {fact : Fact}
    (holds : (call.run (Fleet.handler k) f).2.relations.Holds fact) : fact.Given := by
  induction call generalizing f with
  | done value => exact given fact holds
  | act a next ih =>
    refine ih _ (careful.2 _) (fun stored held => ?_) holds
    by_cases writes : ∃ change written, a = .write change written
    · obtain ⟨change, written, rfl⟩ := writes
      rw [Fleet.handler] at held
      rcases Fleet.relations_of_write change written f with same | same <;> rw [same] at held
      · exact given stored held
      · cases change with
        | insert =>
          rcases Relations.holds_insert.mp held with rfl | before
          · exact careful.1 stored rfl
          · exact given stored before
        | delete => exact given stored (Relations.holds_delete.mp held).2
    · rw [Fleet.handler_relations f fun change written same => writes ⟨change, written, same⟩]
        at held
      exact given stored held

end Call

/-! ### Replicas -/

open Call (Careful)

namespace Replica

theorem careful_buildIndex : buildIndex.run.Careful := by
  refine .of_other rfl fun grants => ?_
  cases grants with
  | error cause => trivial
  | ok grants => exact .of_other rfl fun assignments => by cases assignments <;> trivial

theorem careful_rebuild (id : String) : (rebuild id).run.Careful := by
  refine .of_other rfl fun _ => careful_buildIndex.bind fun built => ?_
  cases built with
  | ok index =>
    exact .of_other rfl fun _ => .of_other rfl fun _ => .of_other rfl fun _ =>
      .of_other rfl fun _ => .of_other rfl fun _ => trivial
  | error cause =>
    exact .of_other rfl fun _ => .of_other rfl fun _ => .of_other rfl fun _ => trivial

theorem careful_announce (id : String) : (announce id).Careful := by
  refine .of_other rfl fun answer => ?_
  cases answer with
  | ok => trivial
  | error cause => exact .of_other rfl fun _ => .of_other rfl fun _ => trivial

end Replica

/-! ### Attempts -/

namespace Attempt

variable {α β : Type}

protected def Careful (attempt : Attempt α) : Prop := attempt.run.Careful

theorem Careful.of_done {result : Except Failure α} : Attempt.Careful ⟨.done result⟩ := trivial

theorem Careful.of_call {call : Call α} (careful : call.Careful) :
    (liftM call : Attempt α).Careful :=
  careful.bind fun _ => trivial

theorem Careful.bind {first : Attempt α} {next : α → Attempt β} (one : first.Careful)
    (two : ∀ value, (next value).Careful) : (first >>= next).Careful :=
  Call.Careful.bind one fun result => match result with
    | .ok value => two value
    | .error _ => trivial

/-- What comes after a check may rely on it. -/
theorem Careful.of_check {check : Except Failure α} {next : α → Attempt β}
    (rest : ∀ value, check = .ok value → (next value).Careful) :
    (liftM check >>= next : Attempt β).Careful := by
  cases check with
  | ok value => exact rest value rfl
  | error cause => trivial

theorem Careful.outcome {attempt : Attempt α} (careful : attempt.Careful) :
    attempt.outcome.Careful :=
  .of_call careful

theorem Careful.map {attempt : Attempt α} (careful : attempt.Careful) (wrap : α → β) :
    (wrap <$> attempt).Careful :=
  careful.bind fun _ => .of_done

theorem careful_note (e : Event) : Attempt.Careful (liftM (Call.note e)) :=
  .of_call (Call.careful_note _)

theorem careful_look (question : Index → α) : Attempt.Careful (liftM (Call.look question)) :=
  .of_call (Call.careful_look question)

theorem careful_commit (id : String) {change : Change} {fact : Fact}
    (given : change = .insert → fact.Given) : (Replica.commit id change fact).Careful := by
  refine .bind ?_ fun _ => Careful.bind (.outcome (Replica.careful_rebuild id)) fun rebuilt =>
    Careful.bind (.of_call (Replica.careful_announce id)) fun _ => ?_
  · refine ⟨fun inserted same => ?_, fun answer => trivial⟩
    cases change with
    | insert => exact Option.some.inj same ▸ given rfl
    | delete => cases same
  · cases rebuilt <;> exact .of_done

end Attempt

/-! ### The operations -/

namespace Authority

variable (me : Profile)

theorem careful_commitGrants {change : Change} {grants : List Grant}
    (given : change = .insert → ∀ g ∈ grants, (Fact.grant g).Given) :
    (commitGrants me change grants).Careful := by
  induction grants with
  | nil => exact .of_done
  | cons g rest ih =>
    refine (Attempt.careful_commit me.id fun inserts => ?_).bind fun _ =>
      ih fun inserts h member => ?_
    · exact given inserts g List.mem_cons_self
    · exact given inserts h (List.mem_cons_of_mem g member)

theorem given_of_checkedGrants {role domain object : String} {actions : List String}
    {grants : List Grant} (checked : checkedGrants role domain object actions = .ok grants) :
    ∀ g ∈ grants, (Fact.grant g).Given := by
  rw [checkedGrants_eq] at checked
  cases met : Demand.check (grantDemands role domain object actions) with
  | error cause => rw [met] at checked; cases checked
  | ok =>
    rw [met] at checked
    obtain rfl := Except.ok.inj checked
    have demands := Demand.check_eq_ok_iff.mp met
    simp only [List.mem_map, mem_distinct]
    rintro g ⟨action, member, rfl⟩ field inKey
    simp [grantDemands, Demand.met] at demands
    simp only [Grant.key, List.mem_cons, List.not_mem_nil, or_false] at inKey
    rcases inKey with rfl | rfl | rfl | rfl
    · exact demands.1
    · exact demands.2.1
    · exact demands.2.2.1
    · exact demands.2.2.2.2 _ member

theorem given_of_checkedAssignment {user role domain : String} {a : Assignment}
    (checked : checkedAssignment user role domain = .ok a) : (Fact.assignment a).Given := by
  rw [checkedAssignment_eq] at checked
  cases met : Demand.check (assignmentDemands user role domain) with
  | error cause => rw [met] at checked; cases checked
  | ok =>
    rw [met] at checked
    obtain rfl := Except.ok.inj checked
    have demands := Demand.check_eq_ok_iff.mp met
    simpa [assignmentDemands, Demand.met, Fact.Given, Assignment.key] using demands

theorem careful_undo (made : List Assignment) : (undo me made).Careful := by
  induction made with
  | nil => trivial
  | cons a rest ih =>
    refine Careful.bind (Attempt.careful_commit me.id nofun) fun result => ?_
    cases result with
    | ok => exact ih
    | error cause => exact .of_other rfl fun _ => ih

theorem careful_assignEach {role domain : String} {users : List String}
    (given : ∀ user ∈ users, (Fact.assignment ⟨user, role, domain⟩).Given)
    (made : List Assignment) : (assignEach me role domain users made).Careful := by
  induction users generalizing made with
  | nil => exact Attempt.careful_note _
  | cons user rest ih =>
    have others := ih fun user member => given user (List.mem_cons_of_mem _ member)
    refine (Attempt.careful_look _).bind fun held => ?_
    split
    · exact others made
    · have inserts : (Replica.commit me.id .insert (.assignment ⟨user, role, domain⟩)).Careful :=
        Attempt.careful_commit me.id fun _ => given user List.mem_cons_self
      refine inserts.outcome.bind fun result => ?_
      cases result with
      | ok => exact others _
      | error cause =>
        refine (Attempt.careful_note _).bind fun _ => ?_
        exact (Attempt.Careful.of_call (careful_undo me _)).bind fun _ => .of_done

theorem careful_assignAll (users : List String) (role domain : String) :
    (assignAll me users role domain).Careful := by
  refine .of_check fun _ checked => careful_assignEach me (fun user member => ?_) []
  rw [checkedUsers_eq] at checked
  have demands := Demand.check_eq_ok_iff.mp checked
  simp [usersDemands, Demand.met] at demands
  simp only [Fact.Given, Assignment.key, List.forall_mem_cons]
  exact ⟨demands.2.2.2 user member, demands.1, demands.2.1, List.forall_mem_nil _⟩

theorem careful_roles (user domain : String) : (roles user domain).Careful :=
  .of_check fun _ _ => .of_check fun _ _ => Attempt.careful_look _

theorem careful_permissions (user domain : String) : (permissions user domain).Careful := by
  refine (careful_roles user domain).bind fun held => .of_call ?_
  induction held with
  | nil => trivial
  | cons role rest ih =>
    exact (Call.careful_look _).bind fun _ => ih.bind fun _ => trivial

end Authority

open Authority in
theorem Policy.Request.careful (me : Profile) (r : Policy.Request) : (r.call me).Careful := by
  cases r with
  | grant =>
    refine Attempt.Careful.map (.of_check fun grants checked => ?_) _
    exact (careful_commitGrants me fun _ => given_of_checkedGrants checked).bind fun _ =>
      Attempt.careful_note _
  | revoke =>
    refine Attempt.Careful.map (.of_check fun grants checked => ?_) _
    have deletes : (commitGrants me .delete grants).Careful := careful_commitGrants me nofun
    exact deletes.bind fun _ => Attempt.careful_note _
  | assign =>
    refine Attempt.Careful.map (.of_check fun a checked => ?_) _
    exact (Attempt.careful_commit me.id fun _ => given_of_checkedAssignment checked).bind fun _ =>
      Attempt.careful_note _
  | unassign =>
    refine Attempt.Careful.map (.of_check fun a checked => ?_) _
    have deletes : (Replica.commit me.id .delete (.assignment a)).Careful :=
      Attempt.careful_commit me.id nofun
    exact deletes.bind fun _ => Attempt.careful_note _
  | assignAll => exact (careful_assignAll me _ _ _).map _
  | roles => exact (careful_roles _ _).map _
  | permissions => exact (careful_permissions _ _).map _
  | domains =>
    refine Attempt.Careful.map (.of_check fun _ _ => ?_) _
    exact (Attempt.careful_look _).bind fun _ => .of_done
  | holders =>
    exact Attempt.Careful.map (.of_check fun _ _ => .of_check fun _ _ => Attempt.careful_look _) _
  | allows =>
    refine Attempt.Careful.map (.of_check fun _ _ => .of_check fun _ _ => ?_) _
    exact (careful_permissions _ _).bind fun _ => .of_done

/-! ### Which contents are attainable -/

/-- The content after one more fact, by the request that stores it. -/
theorem Attainable.insert {r : Relations} (attainable : Attainable r) {fact : Fact}
    (given : fact.Given) : Attainable (r.insert fact) := by
  let f : Fleet := { relations := r, members := [some ⟨{ id := "a" }, r.index⟩] }
  have steady : f.Steady 0 := ⟨⟨rfl, rfl⟩, rfl, rfl⟩
  have served (request : Policy.Request) :
      Attainable (f.run 0 (request.call { id := "a" })).2.relations :=
    .served attainable 0 { id := "a" } request
  cases fact with
  | grant g =>
    have met : Demand.check (grantDemands g.role g.domain g.object [g.action]) = .ok () := by
      refine Demand.check_eq_ok_iff.mpr ?_
      simpa [grantDemands, Demand.met, Fact.Given, Grant.key] using given
    have stored := served (.grant g.role g.domain g.object [g.action])
    rw [Policy.Request.call, run_map, (Authority.achieves_grant _ steady met).relations] at stored
    exact stored
  | assignment a =>
    have met : Demand.check (assignmentDemands a.user a.role a.domain) = .ok () := by
      refine Demand.check_eq_ok_iff.mpr ?_
      simpa [assignmentDemands, Demand.met, Fact.Given, Assignment.key] using given
    have stored := served (.assign a.user a.role a.domain)
    have achieves := Authority.achieves_assign { id := "a" } steady.serves steady.quiet met
    rw [Policy.Request.call, run_map, achieves.relations] at stored
    exact stored

theorem Attainable.given {r : Relations} (attainable : Attainable r) {fact : Fact}
    (holds : r.Holds fact) : fact.Given := by
  induction attainable generalizing fact with
  | empty => exact absurd holds (Relations.holds_empty fact)
  | served before k me request ih =>
    exact Call.Careful.given_of_holds (request.careful me) k (fun fact holds => ih holds) holds

/-- The contents that requests lead to are those without a blank field. -/
theorem attainable_iff {r : Relations} :
    Attainable r ↔ ∀ fact, r.Holds fact → fact.Given := by
  refine ⟨fun attainable fact holds => attainable.given holds, fun given => ?_⟩
  -- The facts can be stored one after the other.
  have stored (facts : List Fact) (start : Relations) (attainable : Attainable start)
      (all : ∀ fact ∈ facts, fact.Given) : Attainable (start.writeAll .insert facts) := by
    induction facts generalizing start with
    | nil => exact attainable
    | cons fact rest ih =>
      exact ih _ (attainable.insert (all fact List.mem_cons_self)) fun other member =>
        all other (List.mem_cons_of_mem _ member)
  have whole : r = Relations.empty.writeAll .insert
      (r.query .allGrants ++ r.query .allAssignments) := by
    refine Relations.ext_holds fun fact => ?_
    rw [Relations.holds_writeAll_insert, List.mem_append, Relations.mem_query,
      Relations.mem_query]
    cases fact with
    | grant g =>
      have other : FactPattern.allAssignments.selects (.grant g) = false := rfl
      simp [other]
    | assignment a =>
      have other : FactPattern.allGrants.selects (.assignment a) = false := rfl
      simp [other]
  rw [whole]
  refine stored _ _ .empty fun fact member => given fact ?_
  rcases List.mem_append.mp member with held | held <;> exact (Relations.mem_query.mp held).2

end Entitlement
