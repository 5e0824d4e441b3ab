import Entitlement.Proofs.AllOrNothing

/-!
# Mutations

The operations that change the relations. Each of them commits facts of its own and no others, so
whatever these commits keep, the operation keeps: through a batch that breaks off, through what is
taken back, and wherever a fault strikes.
-/

namespace Entitlement

open Fleet (Committed Framed Serves handler)

/-! ### What a call retains -/

namespace Call

variable {α β : Type} {k : Nat} {P : Fleet → Prop}

/-- Played through by replica `k`, the call ends with the property if it begins with it. -/
def Retains (k : Nat) (P : Fleet → Prop) (call : Call α) : Prop :=
  ∀ f : Fleet, f.Serves k → P f → P (call.run (handler k) f).2

theorem Retains.done (value : α) : (Call.done value).Retains k P := fun _ _ holds => holds

theorem Retains.bind {call : Call α} {next : α → Call β} (one : call.Retains k P)
    (two : ∀ value, (next value).Retains k P) : (call >>= next).Retains k P := by
  intro f serves holds
  rw [Call.run_bind]
  exact two _ _ (serves.of_framed (Fleet.framed_run k call f)) (one f serves holds)

end Call

namespace Attempt

variable {α β : Type} {k : Nat} {P : Fleet → Prop}

theorem retains_bind {first : Attempt α} {next : α → Attempt β} (one : first.run.Retains k P)
    (two : ∀ value, (next value).run.Retains k P) : (first >>= next).run.Retains k P := by
  rw [Attempt.run_bind]
  apply one.bind
  intro result
  cases result with
  | ok value => exact two value
  | error cause => exact .done _

theorem retains_call {call : Call α} {next : α → Attempt β} (one : call.Retains k P)
    (two : ∀ value, (next value).run.Retains k P) :
    (liftM call >>= next : Attempt β).run.Retains k P := by
  apply retains_bind
  · rw [Attempt.run_liftCall]
    exact one.bind fun _ => .done _
  · exact two

theorem retains_outcome {first : Attempt α} {next : Except Failure α → Attempt β}
    (one : first.run.Retains k P) (two : ∀ result, (next result).run.Retains k P) :
    (first.outcome >>= next).run.Retains k P :=
  retains_call one two

theorem retains_check (check : Except Failure α) {next : α → Attempt β}
    (two : ∀ value, check = .ok value → (next value).run.Retains k P) :
    (liftM check >>= next : Attempt β).run.Retains k P := by
  rw [Attempt.run_bind, Attempt.run_liftCheck, Call.done_bind]
  cases passed : check with
  | ok value => exact two value passed
  | error cause => exact .done _

end Attempt

/-- Commits of these facts keep the property, and so does whatever leaves the content and the index
of the replica alone. -/
structure Fleet.Stable (k : Nat) (id : String) (commits : Change → Fact → Prop)
    (P : Fleet → Prop) : Prop where
  aside : ∀ {f g : Fleet}, P f → g.relations = f.relations → g.indexOf k = f.indexOf k → P g
  commit : ∀ {f g : Fleet} {change : Change} {fact : Fact} {result : Except Failure Unit}
    {done : List Deed}, commits change fact → P f →
    Committed f k id change fact result done g → P g

/-! ### The operations -/

/-- What can be asked of a replica in order to change the relations. -/
inductive Mutation where
  | grant (role domain object : String) (actions : List String)
  | revoke (role domain object : String) (actions : List String)
  | assign (user role domain : String)
  | unassign (user role domain : String)
  | assignAll (users : List String) (role domain : String)
  | createNamespace (creator : String) (record : Namespace)
deriving DecidableEq, Repr

namespace Mutation

variable (me : Profile)

def attempt : Mutation → Attempt Unit
  | grant role domain object actions => Authority.grant me role domain object actions
  | revoke role domain object actions => Authority.revoke me role domain object actions
  | assign user role domain => Authority.assign me user role domain
  | unassign user role domain => Authority.unassign me user role domain
  | assignAll users role domain => Authority.assignAll me users role domain
  | createNamespace creator record =>
    (fun _ => ()) <$> Authority.createNamespace me creator record

/-- The facts that the mutation may insert or delete. -/
def Commits : Mutation → Change → Fact → Prop
  | grant role domain object actions, change, fact =>
    change = .insert ∧ ∃ action ∈ actions, fact = .grant ⟨role, domain, object, action⟩
  | revoke role domain object actions, change, fact =>
    change = .delete ∧ ∃ action ∈ actions, fact = .grant ⟨role, domain, object, action⟩
  | assign user role domain, change, fact =>
    change = .insert ∧ fact = .assignment ⟨user, role, domain⟩
  | unassign user role domain, change, fact =>
    change = .delete ∧ fact = .assignment ⟨user, role, domain⟩
  -- What a batch inserts, it may take back.
  | assignAll users role domain, _, fact =>
    ∃ user ∈ users, fact = .assignment ⟨user, role, domain⟩
  | createNamespace creator record, change, fact =>
    change = .insert ∧ fact = .assignment ⟨creator, me.adminRole, record.name⟩

end Mutation

theorem eq_of_checkedAssignment {user role domain : String} {a : Assignment}
    (checked : checkedAssignment user role domain = .ok a) : a = ⟨user, role, domain⟩ := by
  rw [checkedAssignment_eq] at checked
  cases check : Demand.check (assignmentDemands user role domain) with
  | error cause => simp [check, Except.map] at checked
  | ok => simpa [check, Except.map, eq_comm] using checked

theorem exists_action_of_checkedGrants {role domain object : String} {actions : List String}
    {grants : List Grant} (checked : checkedGrants role domain object actions = .ok grants)
    {g : Grant} (member : g ∈ grants) :
    ∃ action ∈ actions, Fact.grant g = .grant ⟨role, domain, object, action⟩ := by
  rw [checkedGrants_eq] at checked
  cases check : Demand.check (grantDemands role domain object actions) with
  | error cause => simp [check, Except.map] at checked
  | ok =>
    rw [check] at checked
    simp only [Except.map, Except.ok.injEq] at checked
    rw [← checked] at member
    obtain ⟨action, listed, same⟩ := List.mem_map.mp member
    exact ⟨action, mem_distinct.mp listed, by rw [same]⟩

/-- The registry answers with the record that it was given. -/
theorem Registry.eq_of_register {record created : Namespace} {r : Registry}
    (answer : (r.register record).1 = .ok created) : created = record := by
  unfold register at answer
  split at answer
  · cases answer
  · exact (Except.ok.inj answer).symm

theorem Fleet.eq_of_register {record created : Namespace} {f : Fleet}
    (answer : (f.register record).1 = .ok created) : created = record := by
  unfold register at answer
  split at answer
  · cases answer
  · exact Registry.eq_of_register answer

/-- What follows a registration is done with the record that was asked for. -/
theorem Fleet.run_register {β : Type} {k : Nat} {f : Fleet} (record : Namespace)
    (next : Namespace → Attempt β) :
    f.run k (Attempt.ofStore (Call.perform (.register record)) >>= next) =
      match (f.register record).1 with
      | .ok _ => (f.register record).2.run k (next record)
      | .error cause => (.error (.store cause), (f.register record).2) := by
  rw [run, Attempt.run_bind, Call.run_bind]
  cases answer : (f.register record).1 with
  | ok created =>
    have same : created = record := eq_of_register answer
    simp [Attempt.ofStore, Call.perform, handler, answer, mapError_ok, same, run]
  | error cause => simp [Attempt.ofStore, Call.perform, handler, answer, mapError_error]

namespace Fleet.Stable

variable {me : Profile} {k : Nat} {P : Fleet → Prop} {commits : Change → Fact → Prop}

theorem retains_act {α : Type} (stable : Stable k me.id commits P) {a : Action}
    {next : a.Answer → Call α} (noWrite : ∀ change fact, a ≠ .write change fact)
    (noSwap : ∀ index, a ≠ .swapIndex index) (rest : ∀ answer, (next answer).Retains k P) :
    (Call.act a next).Retains k P := by
  intro f serves holds
  have keeps := keeps_handler (k := k) f noWrite noSwap
  have later := serves.of_framed (framed_handler k a f)
  exact rest _ _ later (stable.aside holds keeps.relations (indexOf_congr keeps.members))

theorem retains_note (stable : Stable k me.id commits P) (e : Event) :
    (Call.note e).Retains k P :=
  stable.retains_act nofun nofun fun _ => .done _

theorem retains_event (stable : Stable k me.id commits P) (e : Event) :
    (liftM (Call.note e) : Attempt Unit).run.Retains k P := by
  rw [Attempt.run_liftCall]
  exact (stable.retains_note e).bind fun _ => .done _

theorem retains_look {α : Type} (stable : Stable k me.id commits P) (question : Index → α) :
    (Call.look question).Retains k P :=
  stable.retains_act nofun nofun fun _ => .done _

theorem retains_commit (stable : Stable k me.id commits P) {change : Change} {fact : Fact}
    (among : commits change fact) : (Replica.commit me.id change fact).run.Retains k P := by
  intro f serves holds
  exact stable.commit among holds (commit_cases serves me.id change fact)

theorem retains_commitGrants (stable : Stable k me.id commits P) {change : Change}
    {grants : List Grant} (among : ∀ g ∈ grants, commits change (.grant g)) :
    (Authority.commitGrants me change grants).run.Retains k P := by
  induction grants with
  | nil => exact .done _
  | cons g rest ih =>
    have others : ∀ g ∈ rest, commits change (.grant g) :=
      fun other member => among other (List.mem_cons_of_mem _ member)
    apply Attempt.retains_bind (stable.retains_commit (among g List.mem_cons_self))
    intro _
    exact ih others

theorem retains_undo (stable : Stable k me.id commits P) {made : List Assignment}
    (among : ∀ a ∈ made, commits .delete (.assignment a)) :
    (Authority.undo me made).Retains k P := by
  induction made with
  | nil => exact .done _
  | cons a rest ih =>
    have others := ih fun other member => among other (List.mem_cons_of_mem _ member)
    rw [Authority.undo_cons]
    apply (stable.retains_commit (among a List.mem_cons_self)).bind
    intro result
    cases result with
    | ok => exact others
    | error cause => exact stable.retains_act nofun nofun fun _ => others

theorem retains_assignEach (stable : Stable k me.id commits P) {role domain : String}
    {users : List String} {made : List Assignment}
    (among : ∀ user ∈ users, ∀ change, commits change (.assignment ⟨user, role, domain⟩))
    (amongMade : ∀ a ∈ made, commits .delete (.assignment a)) :
    (Authority.assignEach me role domain users made).run.Retains k P := by
  induction users generalizing made with
  | nil => exact (stable.retains_note _).bind fun _ => .done _
  | cons user rest ih =>
    have others : ∀ u ∈ rest, ∀ change, commits change (.assignment ⟨u, role, domain⟩) :=
      fun u member => among u (List.mem_cons_of_mem _ member)
    have amongMore : ∀ a ∈ ⟨user, role, domain⟩ :: made, commits .delete (.assignment a) :=
      List.forall_mem_cons.mpr ⟨among user List.mem_cons_self .delete, amongMade⟩
    apply Attempt.retains_call (stable.retains_look _)
    intro held
    split
    · exact ih others amongMade
    · have inserts := stable.retains_commit (among user List.mem_cons_self .insert)
      apply Attempt.retains_outcome inserts
      intro result
      cases result with
      | ok => exact ih others amongMore
      | error cause =>
        -- Whatever was stored is taken back before the batch fails.
        apply Attempt.retains_call (stable.retains_note _)
        intro _
        apply Attempt.retains_call
        · apply stable.retains_undo
          split
          · exact amongMore
          · exact amongMade
        · intro _
          exact .done _

theorem retains_checkedAssignment (stable : Stable k me.id commits P) {change : Change}
    {user role domain : String} (among : commits change (.assignment ⟨user, role, domain⟩))
    (e : Event) :
    (do
      let a ← checkedAssignment user role domain
      Replica.commit me.id change (.assignment a)
      Call.note e : Attempt Unit).run.Retains k P := by
  apply Attempt.retains_check
  intro a checked
  have same : a = ⟨user, role, domain⟩ := eq_of_checkedAssignment checked
  apply Attempt.retains_bind
  · rw [same]
    exact stable.retains_commit among
  · intro _
    exact stable.retains_event e

theorem retains_checkedGrants (stable : Stable k me.id commits P) {change : Change}
    {role domain object : String} {actions : List String}
    (among : ∀ action ∈ actions, commits change (.grant ⟨role, domain, object, action⟩))
    (e : Nat → Event) :
    (do
      let grants ← checkedGrants role domain object actions
      Authority.commitGrants me change grants
      Call.note (e grants.length) : Attempt Unit).run.Retains k P := by
  apply Attempt.retains_check
  intro grants checked
  apply Attempt.retains_bind
  · apply stable.retains_commitGrants
    intro g member
    obtain ⟨action, listed, same⟩ := exists_action_of_checkedGrants checked member
    rw [same]
    exact among action listed
  · intro _
    exact stable.retains_event _

theorem retains_register {β : Type} (stable : Stable k me.id commits P) {record : Namespace}
    {next : Namespace → Attempt β} (rest : (next record).run.Retains k P) :
    (Attempt.ofStore (Call.perform (.register record)) >>= next).run.Retains k P := by
  intro f serves holds
  have registers := stable.retains_act (a := .register record) nofun nofun
    (fun _ => .done ()) f serves holds
  have later := serves.of_framed (framed_handler k (.register record) f)
  change P (f.run k _).2
  rw [run_register]
  split
  · exact rest _ later registers
  · exact registers

theorem retains_createNamespace (stable : Stable k me.id commits P) {creator : String}
    {record : Namespace}
    (among : commits .insert (.assignment ⟨creator, me.adminRole, record.name⟩)) :
    (Authority.createNamespace me creator record).run.Retains k P := by
  apply Attempt.retains_check
  intro _ _
  apply Attempt.retains_check
  intro _ _
  apply stable.retains_register
  apply Attempt.retains_outcome (stable.retains_checkedAssignment among _)
  intro result
  cases result <;>
  · apply Attempt.retains_call (stable.retains_note _)
    intro _
    exact .done _

/-- An operation keeps what every commit of its facts keeps. -/
theorem retains_attempt {m : Mutation} (stable : Stable k me.id (m.Commits me) P) :
    (m.attempt me).run.Retains k P := by
  cases m with
  | grant | revoke =>
    apply stable.retains_checkedGrants
    intro action listed
    exact ⟨rfl, action, listed, rfl⟩
  | assign | unassign => exact stable.retains_checkedAssignment ⟨rfl, rfl⟩ _
  | assignAll users role domain =>
    apply Attempt.retains_check
    intro _ _
    apply stable.retains_assignEach
    · intro user member _
      exact ⟨user, member, rfl⟩
    · intro a member
      cases member
  | createNamespace creator record =>
    apply Attempt.retains_bind (stable.retains_createNamespace ⟨rfl, rfl⟩)
    intro _
    exact .done _

end Fleet.Stable

end Entitlement
