import Entitlement.Proofs.Refinement

/-!
# Refusal

A request is refused as invalid for one reason only, that something it has to give is blank or
missing; and then nothing is done at all. What goes wrong once the checks have passed comes from the
store. And whatever a request does, it registers no namespace.
-/

namespace Entitlement

def Action.registers : Action → Bool
  | .register .. => true
  | _ => false

/-- The result is not that a request was refused as invalid. -/
def NotInvalid {α : Type} (result : Except Failure α) : Prop :=
  ∀ reason, result ≠ .error (.invalid reason)

namespace Call

variable {α β : Type} {ends : α → Prop}

/-- Whatever it is answered, the call registers nothing, and `ends` holds of its value. -/
def Confined (ends : α → Prop) : Call α → Prop
  | done value => ends value
  | act a next => a.registers = false ∧ ∀ answer, (next answer).Confined ends

theorem Confined.bind {mid : β → Prop} {first : Call β} {next : β → Call α}
    (one : first.Confined mid) (two : ∀ value, mid value → (next value).Confined ends) :
    (first >>= next).Confined ends := by
  induction first with
  | done value => exact two value one
  | act a rest ih => exact ⟨one.1, fun answer => ih answer (one.2 answer)⟩

theorem Confined.step {a : Action} {next : a.Answer → Call α} (other : a.registers = false)
    (rest : ∀ answer, (next answer).Confined ends) : (act a next).Confined ends :=
  ⟨other, rest⟩

theorem Confined.imp {mid : α → Prop} {call : Call α} (confined : call.Confined mid)
    (weaker : ∀ value, mid value → ends value) : call.Confined ends := by
  induction call with
  | done value => exact weaker value confined
  | act a rest ih => exact ⟨confined.1, fun answer => ih answer (confined.2 answer)⟩

theorem Confined.of_run {σ : Type} {call : Call α} (confined : call.Confined ends) (h : Handler σ)
    (s : σ) : ends (call.run h s).1 := by
  induction call generalizing s with
  | done value => exact confined
  | act a rest ih => exact ih _ (confined.2 _) _

theorem confined_perform {a : Action} (other : a.registers = false) :
    (perform a).Confined fun _ => True :=
  .step other fun _ => trivial

theorem confined_look (question : Index → α) : (look question).Confined fun _ => True :=
  (confined_perform rfl).bind fun _ _ => trivial

end Call

open Call (Confined)

/-! ### Attempts -/

namespace Attempt

variable {α β : Type}

/-- Whatever it is answered, the attempt registers nothing and does not fail as invalid. -/
def Accepted (attempt : Attempt α) : Prop := attempt.run.Confined NotInvalid

theorem accepted_pure (value : α) : (pure value : Attempt α).Accepted := nofun

theorem accepted_fail {cause : Failure} (other : ∀ reason, cause ≠ .invalid reason) :
    (fail cause : Attempt α).Accepted :=
  fun reason same => other reason (Except.error.inj same)

theorem Accepted.of_call {call : Call α} (confined : call.Confined fun _ => True) :
    (liftM call : Attempt α).Accepted :=
  confined.bind fun _ _ => nofun

theorem Accepted.bind {first : Attempt α} {next : α → Attempt β} (one : first.Accepted)
    (two : ∀ value, (next value).Accepted) : (first >>= next).Accepted :=
  Confined.bind one fun result other => match result with
    | .ok value => two value
    | .error _ => fun reason same => other reason (congrArg _ (Except.error.inj same))

theorem Accepted.bind_outcome {attempt : Attempt α} {next : Except Failure α → Attempt β}
    (one : attempt.Accepted) (two : ∀ result, NotInvalid result → (next result).Accepted) :
    (attempt.outcome >>= next).Accepted := by
  simp only [Accepted, run_bind, run_outcome, bind_assoc, Call.done_bind]
  exact Confined.bind one two

theorem Accepted.of_check {check : Except Failure α} {next : α → Attempt β} {value : α}
    (passed : check = .ok value) (rest : (next value).Accepted) :
    (liftM check >>= next : Attempt β).Accepted := by
  subst passed
  exact rest

theorem Accepted.of_required {field value : String} {rest : List Demand} {next : Attempt α}
    (met : Demand.check (.text field value :: rest) = .ok ())
    (others : Demand.check rest = .ok () → next.Accepted) :
    (do required field value; next : Attempt α).Accepted := by
  rw [Demand.check_eq_ok_iff, List.forall_mem_cons] at met
  have given : required field value = .ok () := by
    simpa [required, Demand.met] using met.1
  exact .of_check given (others (Demand.check_eq_ok_iff.mpr met.2))

theorem accepted_note (e : Event) : Attempt.Accepted (liftM (Call.note e)) :=
  .of_call (Call.confined_perform rfl)

theorem accepted_look (question : Index → α) : Attempt.Accepted (liftM (Call.look question)) :=
  .of_call (Call.confined_look question)

end Attempt

/-! ### Replicas -/

namespace Replica

theorem accepted_buildIndex : buildIndex.Accepted := by
  refine .step rfl fun grants => ?_
  cases grants with
  | error cause => exact nofun
  | ok grants => exact .step rfl fun assignments => by cases assignments <;> exact nofun

theorem accepted_rebuild (id : String) : (rebuild id).Accepted := by
  have builds : buildIndex.run.Confined NotInvalid := accepted_buildIndex
  refine .step rfl fun _ => builds.bind fun built other => ?_
  cases built with
  | ok index =>
    exact .step rfl fun _ => .step rfl fun _ => .step rfl fun _ => .step rfl fun _ =>
      .step rfl fun _ => nofun
  | error cause =>
    refine .step rfl fun _ => .step rfl fun _ => .step rfl fun _ reason same => other reason ?_
    exact congrArg _ (Except.error.inj same)

theorem confined_announce (id : String) : (announce id).Confined fun _ => True := by
  refine .step rfl fun answer => ?_
  cases answer with
  | ok => trivial
  | error cause => exact .step rfl fun _ => .step rfl fun _ => trivial

theorem accepted_commit (id : String) (change : Change) (fact : Fact) :
    (commit id change fact).Accepted := by
  refine Attempt.Accepted.bind (.step rfl fun answer => by cases answer <;> exact nofun) fun _ =>
    (accepted_rebuild id).bind_outcome fun rebuilt _ =>
      (Attempt.Accepted.of_call (confined_announce id)).bind fun _ => ?_
  cases rebuilt with
  | ok => exact Attempt.accepted_pure ()
  | error cause => exact Attempt.accepted_fail nofun

end Replica

/-! ### The operations -/

namespace Authority

variable (me : Profile)

theorem accepted_commitGrants (change : Change) (grants : List Grant) :
    (commitGrants me change grants).Accepted := by
  induction grants with
  | nil => exact Attempt.accepted_pure ()
  | cons g rest ih => exact (Replica.accepted_commit me.id change (.grant g)).bind fun _ => ih

theorem confined_undo (made : List Assignment) : (undo me made).Confined fun _ => True := by
  induction made with
  | nil => trivial
  | cons a rest ih =>
    refine Confined.bind (Replica.accepted_commit me.id .delete (.assignment a)) fun result _ => ?_
    cases result with
    | ok => exact ih
    | error cause => exact .step rfl fun _ => ih

theorem accepted_assignEach (role domain : String) (users : List String) (made : List Assignment) :
    (assignEach me role domain users made).Accepted := by
  induction users generalizing made with
  | nil => exact Attempt.accepted_note _
  | cons user rest ih =>
    refine (Attempt.accepted_look _).bind fun held => ?_
    split
    · exact ih made
    · refine (Replica.accepted_commit me.id .insert _).bind_outcome fun result other => ?_
      cases result with
      | ok => exact ih _
      | error cause =>
        refine (Attempt.accepted_note _).bind fun _ =>
          (Attempt.Accepted.of_call (confined_undo me _)).bind fun _ => ?_
        exact Attempt.accepted_fail fun reason same => other reason (congrArg _ same)

theorem confined_permissionsOfRoles (held : List String) :
    (permissionsOfRoles held).Confined fun _ => True := by
  induction held with
  | nil => trivial
  | cons role rest ih => exact (Call.confined_look _).bind fun _ _ => ih.bind fun _ _ => trivial

theorem accepted_checkedGrants {role domain object : String} {actions : List String}
    (met : Demand.check (grantDemands role domain object actions) = .ok ()) (change : Change)
    (e : Nat → Event) :
    Attempt.Accepted
      (do
        let grants ← checkedGrants role domain object actions
        commitGrants me change grants
        Call.note (e grants.length)) := by
  have checked := checkedGrants_eq role domain object actions
  rw [met] at checked
  exact .of_check checked ((accepted_commitGrants me change _).bind fun _ =>
    Attempt.accepted_note _)

theorem accepted_checkedAssignment {user role domain : String}
    (met : Demand.check (assignmentDemands user role domain) = .ok ()) (change : Change)
    (e : Event) :
    Attempt.Accepted
      (do
        let assignment ← checkedAssignment user role domain
        Replica.commit me.id change (.assignment assignment)
        Call.note e) := by
  have checked := checkedAssignment_eq user role domain
  rw [met] at checked
  exact .of_check checked ((Replica.accepted_commit me.id change _).bind fun _ =>
    Attempt.accepted_note _)

theorem accepted_assign {user role domain : String}
    (met : Demand.check (assignmentDemands user role domain) = .ok ()) :
    (assign me user role domain).Accepted :=
  accepted_checkedAssignment me met .insert (.assigned user role domain)

theorem accepted_roles {user domain : String}
    (met : Demand.check [.text "user" user, .text "domain" domain] = .ok ()) :
    (roles user domain).Accepted :=
  .of_required met fun met => .of_required met fun _ => Attempt.accepted_look _

theorem accepted_permissions {user domain : String}
    (met : Demand.check [.text "user" user, .text "domain" domain] = .ok ()) :
    (permissions user domain).Accepted :=
  (accepted_roles met).bind fun held => .of_call (confined_permissionsOfRoles held)

end Authority

open Attempt in
/-- A request that gives everything is not refused as invalid, whatever else happens to it. -/
theorem Policy.Request.accepted (me : Profile) {r : Policy.Request}
    (met : Demand.check r.demands = .ok ()) : (r.call me).Accepted := by
  cases r <;> simp only [Request.demands] at met <;>
    refine Accepted.bind ?_ fun _ => accepted_pure _
  case grant => exact Authority.accepted_checkedGrants me met .insert _
  case revoke => exact Authority.accepted_checkedGrants me met .delete _
  case assign => exact Authority.accepted_assign me met
  case unassign => exact Authority.accepted_checkedAssignment me met .delete _
  case assignAll users role domain =>
    have checked := checkedUsers_eq users role domain
    rw [met] at checked
    exact .of_check checked (Authority.accepted_assignEach me role domain users [])
  case roles => exact Authority.accepted_roles met
  case permissions => exact Authority.accepted_permissions met
  case domains =>
    exact .of_required met fun _ => (accepted_look _).bind fun _ => accepted_pure _
  case holders => exact .of_required met fun met => .of_required met fun _ => accepted_look _
  case allows =>
    exact .of_required met fun met => .of_required met fun met =>
      (Authority.accepted_permissions met).bind fun _ => accepted_pure _

/-! ### What a request can lack -/

/-- A required text is blank, a required list is empty, or one of its elements is blank. -/
def Policy.Request.Lacking : Policy.Request → Prop
  | grant role domain object actions | revoke role domain object actions =>
    Text.isBlank role ∨ Text.isBlank domain ∨ Text.isBlank object ∨ actions = [] ∨
      ∃ action ∈ actions, Text.isBlank action
  | assign user role domain | unassign user role domain =>
    Text.isBlank user ∨ Text.isBlank role ∨ Text.isBlank domain
  | assignAll users role domain =>
    Text.isBlank role ∨ Text.isBlank domain ∨ users = [] ∨ ∃ user ∈ users, Text.isBlank user
  | roles user domain | permissions user domain => Text.isBlank user ∨ Text.isBlank domain
  | domains user => Text.isBlank user
  | holders role domain => Text.isBlank role ∨ Text.isBlank domain
  | allows user domain object action =>
    Text.isBlank user ∨ Text.isBlank domain ∨ Text.isBlank object ∨ Text.isBlank action

theorem Policy.Request.lacking_iff_unmet (r : Policy.Request) :
    r.Lacking ↔ ¬ Demand.check r.demands = .ok () := by
  rw [Demand.check_eq_ok_iff]
  cases r <;> simp [Lacking, demands, grantDemands, assignmentDemands, usersDemands, Demand.met]
  all_goals grind

theorem Demand.invalid_of_check {demands : List Demand} {cause : Failure}
    (unmet : check demands = .error cause) : ∃ reason, cause = .invalid reason := by
  unfold check at unmet
  split at unmet
  · cases unmet
  · exact ⟨_, (Except.error.inj unmet).symm⟩

/-- Whatever the store, the channel and the other calls do, a request is refused as invalid exactly
if it lacks something, and such a request does nothing. -/
theorem Policy.Request.invalid_iff_lacking {σ : Type} (h : Handler σ) (s : σ) (me : Profile)
    (r : Policy.Request) :
    ((∃ reason, ((r.call me).run.run h s).1 = .error (.invalid reason)) ↔ r.Lacking) ∧
      (r.Lacking → ((r.call me).run.run h s).2 = s ∧ (r.call me).run.actions h s = []) := by
  rw [lacking_iff_unmet]
  cases check : Demand.check r.demands with
  | ok =>
    have accepted : NotInvalid ((r.call me).run.run h s).1 := (r.accepted me check).of_run h s
    refine ⟨⟨fun ⟨reason, refused⟩ => absurd refused (accepted reason), fun lacks => ?_⟩,
      fun lacks => ?_⟩
    · exact absurd rfl lacks
    · exact absurd rfl lacks
  | error cause =>
    obtain ⟨reason, rfl⟩ := Demand.invalid_of_check check
    rw [r.call_of_unmet me check]
    exact ⟨⟨nofun, fun _ => ⟨reason, rfl⟩⟩, fun _ => ⟨rfl, rfl⟩⟩

end Entitlement
