import Entitlement.Proofs.Traffic

/-!
# How calls conduct themselves

What other calls may rely on, wherever a call is interrupted: an accepted write is followed by a
rebuild and then by a signal, a rebuild takes the lock, asks for the grants and then for the
assignments, swaps in what it was answered, reports and gives the lock back, and a new subscription
is followed by a rebuild. Where a call stands in this is its stand; each action moves the stand by a
fixed rule, and every call that can be begun obeys the rule to its end.
-/

namespace Entitlement

/-- How far a rebuild has come. -/
inductive Stage where
  | idle
  -- A rebuild has to follow.
  | due
  | begun
  | asked (grants : List Fact)
  | built (index : Index)
  | swapped
  -- The store did not answer.
  | stopped
  | reported
deriving DecidableEq, Repr

/-- Whether the lock is held. -/
def Stage.holds : Stage → Bool
  | idle | due => false
  | begun | asked _ | built _ | swapped | stopped | reported => true

structure Stand where
  stage : Stage := .idle
  -- A write is stored and no signal has told of it yet.
  owes : Bool := false
  -- A subscription that has no watcher yet.
  subscription : Option Nat := none
deriving DecidableEq, Repr

/-- Nothing is owed and nothing is held. -/
def Stand.rest : Stand := {}

/-- Who reports of a rebuild, and whether it succeeded. -/
def Trace.report? : Trace → Option (String × Bool)
  | .event (.indexRebuilt id) => some (id, true)
  | .event (.rebuildFailed id _) => some (id, false)
  | _ => none

/-- An action that bears neither on the store nor on an index nor on the channel. -/
def Action.Silent : Action → Prop
  | .probe | .register _ | .listing _ | .readIndex => True
  | .note t => t.report? = none
  | _ => False

/-- The rule: from which stand an action may be performed, and how it moves the stand with the
answer that it is given. -/
inductive Lawful (id : String) : Stand → (a : Action) → a.Answer → Stand → Prop
  | silent {a : Action} (st : Stand) (answer : a.Answer) (silent : a.Silent) :
      Lawful id st a answer st
  | written (change : Change) (fact : Fact) (sub : Option Nat) :
      Lawful id ⟨.idle, false, sub⟩ (.write change fact) (.ok ()) ⟨.due, true, sub⟩
  | refused (change : Change) (fact : Fact) (cause : StoreFailure) (sub : Option Nat) :
      Lawful id ⟨.idle, false, sub⟩ (.write change fact) (.error cause) ⟨.idle, false, sub⟩
  | locked {stage : Stage} (free : stage.holds = false) (owes : Bool) (sub : Option Nat) :
      Lawful id ⟨stage, owes, sub⟩ .acquireLock () ⟨.begun, owes, sub⟩
  | asked (grants : List Fact) (owes : Bool) (sub : Option Nat) :
      Lawful id ⟨.begun, owes, sub⟩ (.query .allGrants) (.ok grants) ⟨.asked grants, owes, sub⟩
  | built (grants assignments : List Fact) (owes : Bool) (sub : Option Nat) :
      Lawful id ⟨.asked grants, owes, sub⟩ (.query .allAssignments) (.ok assignments)
        ⟨.built (.ofAnswers grants assignments), owes, sub⟩
  | stopped {stage : Stage} (asking : stage = .begun ∨ ∃ grants, stage = .asked grants)
      (pattern : FactPattern) (cause : StoreFailure) (owes : Bool) (sub : Option Nat) :
      Lawful id ⟨stage, owes, sub⟩ (.query pattern) (.error cause) ⟨.stopped, owes, sub⟩
  | swapped (index : Index) (owes : Bool) (sub : Option Nat) :
      Lawful id ⟨.built index, owes, sub⟩ (.swapIndex index) () ⟨.swapped, owes, sub⟩
  | succeeded (owes : Bool) (sub : Option Nat) :
      Lawful id ⟨.swapped, owes, sub⟩ (.note (.event (.indexRebuilt id))) ()
        ⟨.reported, owes, sub⟩
  | failed (cause : Failure) (owes : Bool) (sub : Option Nat) :
      Lawful id ⟨.stopped, owes, sub⟩ (.note (.event (.rebuildFailed id cause))) ()
        ⟨.reported, owes, sub⟩
  | released (owes : Bool) (sub : Option Nat) :
      Lawful id ⟨.reported, owes, sub⟩ .releaseLock () ⟨.idle, owes, sub⟩
  | told (answer : Except SignalFailure Unit) (sub : Option Nat) :
      Lawful id ⟨.idle, true, sub⟩ (.publish ⟨id⟩) answer ⟨.idle, false, sub⟩
  | opened (n : Nat) :
      Lawful id .rest .subscribe (.ok n) ⟨.due, false, some n⟩
  | unopened (cause : SignalFailure) :
      Lawful id .rest .subscribe (.error cause) .rest
  | closed (n : Nat) :
      Lawful id ⟨.idle, false, some n⟩ (.unsubscribe n) () .rest

namespace Call

variable {α β : Type} {id : String}

/-- The call performs lawful actions only, whatever they are answered, and ends with a stand and a
value that `ends` allows. -/
def Obeys (id : String) (ends : Stand → α → Prop) : Stand → Call α → Prop
  | st, done value => ends st value
  | st, act a next => ∀ answer, ∃ later, Lawful id st a answer later ∧
      (next answer).Obeys id ends later

theorem Obeys.bind {mid : Stand → α → Prop} {ends : Stand → β → Prop} {st : Stand}
    {first : Call α} {next : α → Call β} (obeys : first.Obeys id mid st)
    (goesOn : ∀ st value, mid st value → (next value).Obeys id ends st) :
    (first >>= next).Obeys id ends st := by
  induction first generalizing st with
  | done value => exact goesOn st value obeys
  | act a rest ih =>
    intro answer
    obtain ⟨later, lawful, others⟩ := obeys answer
    exact ⟨later, lawful, ih answer others⟩

theorem Obeys.of_silent {ends : Stand → β → Prop} {st : Stand} {a : Action}
    {next : a.Answer → Call β} (silent : a.Silent)
    (goesOn : ∀ answer, (next answer).Obeys id ends st) :
    (act a next).Obeys id ends st :=
  fun answer => ⟨st, .silent st answer silent, goesOn answer⟩

theorem obeys_look (question : Index → α) :
    (look question).Obeys id (fun st _ => st = .rest) .rest :=
  .of_silent trivial fun _ => rfl

end Call

open Call (Obeys)

/-! ### Replicas -/

namespace Replica

variable {id : String} {owes : Bool} {sub : Option Nat}

theorem obeys_buildIndex :
    (buildIndex.run).Obeys id
      (fun st result => (∃ index, result = .ok index ∧ st = ⟨.built index, owes, sub⟩) ∨
        ∃ cause, result = .error cause ∧ st = ⟨.stopped, owes, sub⟩)
      ⟨.begun, owes, sub⟩ := by
  intro grants
  cases grants with
  | error cause => exact ⟨_, .stopped (.inl rfl) _ cause owes sub, .inr ⟨_, rfl, rfl⟩⟩
  | ok grants =>
    refine ⟨_, .asked grants owes sub, fun assignments => ?_⟩
    cases assignments with
    | error cause =>
      exact ⟨_, .stopped (.inr ⟨grants, rfl⟩) _ cause owes sub, .inr ⟨_, rfl, rfl⟩⟩
    | ok assignments =>
      exact ⟨_, .built grants assignments owes sub, .inl ⟨_, rfl, rfl⟩⟩

/-- A rebuild leaves what is owed as it was. -/
theorem obeys_rebuild {stage : Stage} (free : stage.holds = false) :
    (rebuild id).run.Obeys id (fun st _ => st = ⟨.idle, owes, sub⟩) ⟨stage, owes, sub⟩ := by
  simp only [rebuild, Call.perform, Call.act_bind, Call.done_bind]
  intro _
  refine ⟨_, .locked free owes sub, ?_⟩
  refine Obeys.bind obeys_buildIndex ?_
  rintro st result (⟨index, rfl, rfl⟩ | ⟨cause, rfl, rfl⟩)
  · intro _
    refine ⟨_, .swapped index owes sub, ?_⟩
    refine .of_silent rfl fun _ => .of_silent rfl fun _ => fun _ => ?_
    refine ⟨_, .succeeded owes sub, fun _ => ?_⟩
    exact ⟨_, .released owes sub, rfl⟩
  · refine .of_silent rfl fun _ => fun _ => ?_
    refine ⟨_, .failed cause owes sub, fun _ => ?_⟩
    exact ⟨_, .released owes sub, rfl⟩

theorem obeys_announce :
    (announce id).Obeys id (fun st _ => st = ⟨.idle, false, sub⟩) ⟨.idle, true, sub⟩ := by
  intro answer
  refine ⟨_, .told answer sub, ?_⟩
  cases answer with
  | ok => rfl
  | error cause => exact .of_silent rfl fun _ => .of_silent rfl fun _ => rfl

theorem obeys_commit (change : Change) (fact : Fact) :
    (commit id change fact).run.Obeys id (fun st _ => st = .rest) .rest := by
  simp only [commit, Attempt.ofStore, Attempt.run_bind, Attempt.run_outcome, Attempt.run_liftCall,
    Call.perform, Call.act_bind, Call.done_bind, Call.pure_eq, bind_assoc]
  intro answer
  cases answer with
  | error cause => exact ⟨_, .refused change fact cause none, rfl⟩
  | ok =>
    refine ⟨_, .written change fact none, ?_⟩
    refine Obeys.bind (obeys_rebuild rfl) ?_
    rintro st result rfl
    refine Obeys.bind obeys_announce ?_
    rintro st _ rfl
    cases result <;> rfl

theorem obeys_watch :
    (watch id).run.Obeys id
      (fun st result => st = ⟨.idle, false, result.toOption⟩) .rest := by
  simp only [watch, Attempt.ofChannel, Call.perform, Attempt.run_bind, Attempt.run_outcome,
    Call.act_bind, Call.done_bind, Call.pure_eq, bind_assoc]
  intro answer
  cases answer with
  | error cause => exact ⟨_, .unopened cause, rfl⟩
  | ok n =>
    refine ⟨_, .opened n, ?_⟩
    refine Obeys.bind (obeys_rebuild rfl) ?_
    rintro st result rfl
    cases result with
    | ok => rfl
    | error cause => exact fun _ => ⟨_, .closed n, rfl⟩

/-- A foreign signal asks for a rebuild, an own one for nothing. -/
theorem obeys_follow (s : Signal) :
    (follow id s).Obeys id (fun st _ => st = .rest)
      { stage := if s.origin = id then .idle else .due } := by
  unfold follow
  split
  · rfl
  · exact Obeys.bind (obeys_rebuild rfl) fun _ _ stands => stands

end Replica

/-! ### Attempts -/

/-- The attempt can be begun by anybody at any time: it starts from rest and ends at rest. -/
def Attempt.Settles {α : Type} (id : String) (attempt : Attempt α) : Prop :=
  attempt.run.Obeys id (fun st _ => st = .rest) .rest

namespace Attempt

variable {α β : Type} {id : String}

theorem Settles.of_done {result : Except Failure α} : Settles id ⟨.done result⟩ := rfl

theorem Settles.bind {first : Attempt α} {next : α → Attempt β} (one : first.Settles id)
    (two : ∀ value, (next value).Settles id) : (first >>= next).Settles id := by
  refine Obeys.bind one ?_
  rintro st result rfl
  cases result with
  | ok value => exact two value
  | error cause => rfl

/-- A check does nothing. -/
theorem Settles.of_check {check : Except Failure α} {next : α → Attempt β}
    (rest : ∀ value, (next value).Settles id) : Settles id (liftM check >>= next) :=
  .bind .of_done rest

theorem Settles.of_call {call : Call α} (obeys : call.Obeys id (fun st _ => st = .rest) .rest) :
    (liftM call : Attempt α).Settles id :=
  Obeys.bind obeys fun _ _ stands => stands

theorem Settles.outcome {attempt : Attempt α} (settles : attempt.Settles id) :
    attempt.outcome.Settles id :=
  Settles.of_call settles

theorem Settles.map {attempt : Attempt α} (settles : attempt.Settles id) (wrap : α → β) :
    (wrap <$> attempt).Settles id :=
  settles.bind fun _ => .of_done

theorem settles_look (question : Index → α) : Settles id (liftM (Call.look question)) :=
  .of_call (Call.obeys_look question)

/-- Nobody but a rebuild reports rebuilds. -/
theorem settles_note {e : Event} (quiet : (Trace.event e).report? = none) :
    Settles id (liftM (Call.note e)) :=
  .of_call (.of_silent quiet fun _ => rfl)

theorem settles_commit (change : Change) (fact : Fact) :
    Settles id (Replica.commit id change fact) :=
  Replica.obeys_commit change fact

end Attempt

/-! ### The operations -/

namespace Authority

open Attempt (Settles)

variable {id : String} (me : Profile)

theorem settles_roles (user domain : String) : Settles id (roles user domain) :=
  .of_check fun _ => .of_check fun _ => Attempt.settles_look _

theorem obeys_permissionsOfRoles (held : List String) :
    (permissionsOfRoles held).Obeys id (fun st _ => st = .rest) .rest := by
  induction held with
  | nil => rfl
  | cons role rest ih =>
    refine Obeys.bind (Call.obeys_look _) ?_
    rintro st grants rfl
    exact Obeys.bind ih fun _ _ stands => stands

theorem settles_permissions (user domain : String) : Settles id (permissions user domain) :=
  (settles_roles user domain).bind fun held => .of_call (obeys_permissionsOfRoles held)

theorem settles_domains (user : String) : Settles id (domains me user) :=
  .of_check fun _ => .bind (Attempt.settles_look _) fun _ => .of_done

theorem settles_holders (role domain : String) : Settles id (holders role domain) :=
  .of_check fun _ => .of_check fun _ => Attempt.settles_look _

theorem settles_allows (user domain object action : String) :
    Settles id (allows user domain object action) :=
  .of_check fun _ => .of_check fun _ =>
    (settles_permissions user domain).bind fun _ => .of_done

theorem settles_commitGrants (change : Change) (grants : List Grant) :
    Settles me.id (commitGrants me change grants) := by
  induction grants with
  | nil => exact .of_done
  | cons g rest ih => exact (Attempt.settles_commit change _).bind fun _ => ih

theorem settles_grant (role domain object : String) (actions : List String) :
    Settles me.id (grant me role domain object actions) :=
  .of_check fun _ => (settles_commitGrants me _ _).bind fun _ => Attempt.settles_note rfl

theorem settles_revoke (role domain object : String) (actions : List String) :
    Settles me.id (revoke me role domain object actions) :=
  .of_check fun _ => (settles_commitGrants me _ _).bind fun _ => Attempt.settles_note rfl

theorem settles_assign (user role domain : String) : Settles me.id (assign me user role domain) :=
  .of_check fun _ => (Attempt.settles_commit _ _).bind fun _ => Attempt.settles_note rfl

theorem settles_unassign (user role domain : String) :
    Settles me.id (unassign me user role domain) :=
  .of_check fun _ => (Attempt.settles_commit _ _).bind fun _ => Attempt.settles_note rfl

theorem obeys_undo (made : List Assignment) :
    (undo me made).Obeys me.id (fun st _ => st = .rest) .rest := by
  induction made with
  | nil => rfl
  | cons a rest ih =>
    refine Call.Obeys.bind (Replica.obeys_commit .delete (.assignment a)) ?_
    rintro st result rfl
    cases result with
    | ok => exact ih
    | error cause => exact .of_silent rfl fun _ => ih

theorem settles_assignEach (role domain : String) (users : List String)
    (made : List Assignment) : Settles me.id (assignEach me role domain users made) := by
  induction users generalizing made with
  | nil => exact Attempt.settles_note rfl
  | cons user rest ih =>
    refine (Attempt.settles_look _).bind fun held => ?_
    split
    · exact ih made
    · refine (Attempt.settles_commit _ _).outcome.bind fun result => ?_
      cases result with
      | ok => exact ih _
      | error cause =>
        refine (Attempt.settles_note rfl).bind fun _ => ?_
        exact (Attempt.Settles.of_call (obeys_undo me _)).bind fun _ => .of_done

theorem settles_assignAll (users : List String) (role domain : String) :
    Settles me.id (assignAll me users role domain) :=
  .of_check fun _ => settles_assignEach me role domain users []

theorem settles_createNamespace (creator : String) (record : Namespace) :
    Settles me.id (createNamespace me creator record) := by
  refine .of_check fun _ => .of_check fun _ => .bind ?_ fun created => ?_
  · exact .of_silent trivial fun _ => rfl
  · refine (settles_assign me _ _ _).outcome.bind fun result => ?_
    cases result with
    | ok => exact (Attempt.settles_note rfl).bind fun _ => .of_done
    | error cause => exact (Attempt.settles_note rfl).bind fun _ => .of_done

end Authority

theorem Policy.Request.settles (me : Profile) (r : Policy.Request) :
    Attempt.Settles me.id (r.call me) := by
  cases r with
  | grant => exact (Authority.settles_grant me _ _ _ _).map _
  | revoke => exact (Authority.settles_revoke me _ _ _ _).map _
  | assign => exact (Authority.settles_assign me _ _ _).map _
  | unassign => exact (Authority.settles_unassign me _ _ _).map _
  | assignAll => exact (Authority.settles_assignAll me _ _ _).map _
  | roles => exact (Authority.settles_roles _ _).map _
  | permissions => exact (Authority.settles_permissions _ _).map _
  | domains => exact (Authority.settles_domains me _).map _
  | holders => exact (Authority.settles_holders _ _).map _
  | allows => exact (Authority.settles_allows _ _ _ _).map _

/-! ### Tasks -/

/-- How the outcome of a call and its last stand fit together. -/
def Outcome.Leaves (st : Stand) : Outcome → Prop
  | watched (.ok n) => st = ⟨.idle, false, some n⟩
  | _ => st = .rest

theorem Outcome.idle_of_leaves {st : Stand} (outcome : Outcome) (leaves : outcome.Leaves st) :
    st.stage = .idle ∧ st.owes = false := by
  unfold Leaves at leaves
  split at leaves <;> subst leaves <;> exact ⟨rfl, rfl⟩

/-- Whatever can be asked of a replica obeys the rule. -/
theorem Errand.obeys (me : Profile) (errand : Errand) :
    (errand.call me).Obeys me.id (fun st outcome => outcome.Leaves st) .rest := by
  cases errand with
  | request r => exact Obeys.bind (r.settles me) fun _ _ stands => stands
  | change c fact => exact Obeys.bind (Replica.obeys_commit c fact) fun _ _ stands => stands
  | rebuild => exact Obeys.bind (Replica.obeys_rebuild rfl) fun _ _ stands => stands
  | watch =>
    refine Obeys.bind Replica.obeys_watch ?_
    rintro st result rfl
    cases result <;> rfl
  | createNamespace creator record =>
    exact Obeys.bind (Authority.settles_createNamespace me creator record) fun _ _ stands => stands

end Entitlement
