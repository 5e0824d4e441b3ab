import Entitlement.Proofs.Rounds
import Entitlement.Proofs.Truthfulness

/-!
# Streaks

Grants are made and revoked one at a time, and each commit waits for the one before it to succeed.
So the commits of a request are those of the first few of its grants, all of them successful but for
the last, and nothing is taken back when that one fails. Refused writes are taken to change nothing
here.
-/

namespace Entitlement

open Fleet (Current Harmless Serves deeds handler)

/-- The store accepts the facts of the effective rounds. -/
theorem Round.accepted_eq (id : String) (rounds : List Round) :
    accepted (rounds.flatMap (Round.deeds id)) =
      (rounds.filter Round.effective).map Round.fact := by
  induction rounds with
  | nil => rfl
  | cons t rest ih =>
    have own : accepted (t.deeds id) = ([t].filter Round.effective).map Round.fact := by
      cases refused : t.refused <;>
        simp [accepted, deeds, effective, refused, Deed.accepted?]
    rw [List.flatMap_cons, accepted_append, own, ih, ← List.map_append, ← List.filter_append]
    rfl

/-- The course of commits that stop at the first failure, when all of `wanted` is to be written. The
rounds of `succeeded` went through, the one of `failed` did not. -/
structure Streak (id : String) (wanted : List (Change × Fact)) (result : Except Failure Unit)
    (done : List Deed) (passed : List Round) (failed : Option Round) : Prop where
  course : done = (passed ++ failed.toList).flatMap (Round.deeds id)
  inOrder : (passed ++ failed.toList).map Round.write <+: wanted
  succeeded : ∀ t ∈ passed, t.result = .ok ()
  whole : failed = none → passed.map Round.write = wanted ∧ result = .ok ()
  broken : ∀ t ∈ failed, ∃ cause, t.result = .error cause ∧ result = .error cause

namespace Streak

variable {id : String} {wanted : List (Change × Fact)} {result : Except Failure Unit}
  {done : List Deed} {passed : List Round} {failed : Option Round}

theorem ok_iff (streak : Streak id wanted result done passed failed) :
    result = .ok () ↔ failed = none := by
  constructor
  · intro returned
    cases broken : failed with
    | none => rfl
    | some t =>
      obtain ⟨cause, -, reported⟩ := streak.broken t broken
      rw [reported] at returned
      cases returned
  · exact fun unbroken => (streak.whole unbroken).2

/-- The commit that failed has written exactly if only its rebuild was stopped. -/
theorem effective_iff (streak : Streak id wanted result done passed failed) {t : Round}
    (isLast : t ∈ failed) : t.effective = true ↔ ∃ reason, result = .error (.stale reason) := by
  obtain ⟨cause, failing, reported⟩ := streak.broken t isLast
  rw [Round.effective_of_error failing, Failure.writePersisted_iff, reported]
  simp only [Except.error.injEq]

/-- What went through is accepted, and of the rest at most the commit that failed. -/
theorem accepted_eq (streak : Streak id wanted result done passed failed) :
    accepted done = (passed ++ failed.toList.filter Round.effective).map Round.fact := by
  have all : passed.filter Round.effective = passed := by
    rw [List.filter_eq_self]
    exact fun t member => Round.effective_of_ok (streak.succeeded t member)
  rw [streak.course, Round.accepted_eq, List.filter_append, all]

theorem cons {write : Change × Fact} {t : Round} (written : t.write = write)
    (returned : t.result = .ok ()) (streak : Streak id wanted result done passed failed) :
    Streak id (write :: wanted) result (t.deeds id ++ done) (t :: passed) failed where
  course := by
    rw [List.cons_append, List.flatMap_cons, ← streak.course]
  inOrder := by
    rw [List.cons_append, List.map_cons, written]
    exact List.cons_prefix_cons.mpr ⟨rfl, streak.inOrder⟩
  succeeded := List.forall_mem_cons.mpr ⟨returned, streak.succeeded⟩
  whole unbroken := by
    obtain ⟨all, ok⟩ := streak.whole unbroken
    exact ⟨by rw [List.map_cons, written, all], ok⟩
  broken := streak.broken

theorem of_error {write : Change × Fact} {t : Round} {cause : Failure} (written : t.write = write)
    (returned : t.result = .error cause) :
    Streak id (write :: wanted) (.error cause) (t.deeds id) [] (some t) where
  course := by simp
  inOrder := by
    rw [List.nil_append, Option.toList_some, List.map_singleton, written]
    exact List.cons_prefix_cons.mpr ⟨rfl, List.nil_prefix⟩
  succeeded := List.forall_mem_nil _
  whole := nofun
  broken last isLast := by
    cases isLast
    exact ⟨cause, returned, rfl⟩

end Streak

theorem check_grantDemands {role domain object : String} {actions : List String} :
    Demand.check (grantDemands role domain object actions) = .ok () ↔
      Text.isBlank role = false ∧ Text.isBlank domain = false ∧ Text.isBlank object = false ∧
        actions ≠ [] ∧ ∀ action ∈ actions, Text.isBlank action = false := by
  simp [Demand.check_eq_ok_iff, grantDemands, Demand.met, or_imp, forall_and]

namespace Authority

variable (me : Profile) {k : Nat} {f : Fleet} {change : Change}
  {role domain object : String} {actions : List String}

theorem commitGrants_streak (serves : f.Serves k) (change : Change) (grants : List Grant) :
    ∃ passed failed,
      Streak me.id (grants.map fun g => (change, .grant g))
        ((commitGrants me change grants).run.run (handler k) f).1
        (deeds k (commitGrants me change grants).run f) passed failed := by
  induction grants generalizing f with
  | nil =>
    refine ⟨[], none, ?_⟩
    constructor
    case course => rfl
    case inOrder => exact List.nil_prefix
    case succeeded => exact List.forall_mem_nil _
    case whole => exact fun _ => ⟨rfl, rfl⟩
    case broken => exact nofun
  | cons g rest ih =>
    obtain ⟨result, early, later, played, done, committed, framed⟩ :=
      Fleet.exists_committed serves me.id change (.grant g)
    obtain ⟨t, written, returned, same⟩ := committed.exists_round
    simp only [commitGrants, Attempt.run_bind, Call.run_bind, Fleet.deeds_bind, played, done,
      ← same]
    cases result with
    | ok =>
      obtain ⟨passed, failed, streak⟩ := ih (serves.of_framed framed)
      exact ⟨t :: passed, failed, streak.cons written returned⟩
    | error cause =>
      rw [Fleet.deeds_done, List.append_nil]
      exact ⟨[], some t, .of_error written returned⟩

/-- Every commit that succeeds makes the index current. -/
theorem current_commitGrants (serves : f.Serves k) {grants : List Grant}
    (listed : f.Current k ∨ grants ≠ [])
    (succeeded : ((commitGrants me change grants).run.run (handler k) f).1 = .ok ()) :
    ((commitGrants me change grants).run.run (handler k) f).2.Current k := by
  induction grants generalizing f with
  | nil =>
    rcases listed with current | some
    · exact current
    · exact absurd rfl some
  | cons g rest ih =>
    obtain ⟨result, early, later, played, -, committed, framed⟩ :=
      Fleet.exists_committed serves me.id change (.grant g)
    simp only [commitGrants, Attempt.run_bind, Call.run_bind, played] at succeeded ⊢
    cases result with
    | ok => exact ih (serves.of_framed framed) (.inl committed.current.2) succeeded
    | error cause => cases succeeded

/-- Grants the role the actions, or revokes them. -/
def adjust : Change → (role domain object : String) → (actions : List String) → Attempt Unit
  | .insert => grant me
  | .delete => revoke me

/-- Without what it demands a request does nothing. -/
theorem adjust_of_check_error {cause : Failure}
    (unmet : Demand.check (grantDemands role domain object actions) = .error cause) :
    (adjust me change role domain object actions).run = .done (.error cause) := by
  cases change <;> simp [adjust, grant, revoke, checkedGrants_eq, unmet, Except.map]

/-- The grants of a request, each action at its first occurrence. -/
def grantsOf (role domain object : String) (actions : List String) : List Grant :=
  (distinct actions).map fun action => ⟨role, domain, object, action⟩

/-- A request whose demands are met commits its grants, and a note of it ends a success. -/
theorem adjust_of_check (change : Change)
    (met : Demand.check (grantDemands role domain object actions) = .ok ()) :
    ∃ e : Event, adjust me change role domain object actions =
      commitGrants me change (grantsOf role domain object actions) >>= fun _ => Call.note e := by
  cases change with
  | insert =>
    refine ⟨.granted role domain object (grantsOf role domain object actions).length, ?_⟩
    rw [adjust, grant, checkedGrants_eq, met]
    rfl
  | delete =>
    refine ⟨.revoked role domain object (grantsOf role domain object actions).length, ?_⟩
    rw [adjust, revoke, checkedGrants_eq, met]
    rfl

theorem run_noted (attempt : Attempt Unit) (e : Event) :
    let noted := attempt >>= fun _ => Call.note e
    (f.run k noted).1 = (f.run k attempt).1 ∧
      (f.run k noted).2.relations = (f.run k attempt).2.relations ∧
      (f.run k noted).2.indexOf k = (f.run k attempt).2.indexOf k ∧
      deeds k noted.run f = deeds k attempt.run f := by
  cases result : (attempt.run.run (handler k) f).1 <;>
    simp [Fleet.run, Call.note, Call.perform, handler, Fleet.deed?, result]

/-- Whatever the store holds and whatever fails, a request that lacks something does nothing. Any
other is a streak over its distinct actions. What went through stays, the commit that failed stays
too if only its rebuild was stopped, and its failure is that of the request. -/
theorem adjust_streak (serves : f.Serves k) (harmless : f.Harmless) (change : Change)
    (role domain object : String) (actions : List String) :
    let attempt := adjust me change role domain object actions
    let result := (f.run k attempt).1
    let after := (f.run k attempt).2
    let done := deeds k attempt.run f
    match Demand.check (grantDemands role domain object actions) with
    | .error cause => result = .error cause ∧ done = [] ∧ after = f
    | .ok () =>
      ∃ passed failed,
        Streak me.id ((grantsOf role domain object actions).map fun g => (change, .grant g)) result
          done passed failed ∧
        done.filterMap Deed.write? = (passed ++ failed.toList).map Round.write ∧
        after.relations = f.relations.writeAll change
          ((passed ++ failed.toList.filter Round.effective).map Round.fact) ∧
        (∀ t ∈ failed, t.effective = true ↔ ∃ reason, result = .error (.stale reason)) ∧
        (result = .ok () ↔ failed = none) ∧
        (result = .ok () → after.Current k) := by
  intro attempt result after done
  split
  next cause unmet =>
    simp only [result, after, done, attempt, Fleet.run, adjust_of_check_error me unmet,
      Call.run_done, Fleet.deeds_done, and_self]
  next met =>
    obtain ⟨e, noted⟩ := adjust_of_check me change met
    obtain ⟨sameResult, sameRelations, sameIndex, sameDeeds⟩ :=
      run_noted (k := k) (f := f)
        (commitGrants me change (grantsOf role domain object actions)) e
    have accepts := accepts_commitGrants me serves harmless change
      (grantsOf role domain object actions)
    obtain ⟨passed, failed, streak⟩ := commitGrants_streak me serves change
      (grantsOf role domain object actions)
    have listed : grantsOf role domain object actions ≠ [] := by
      obtain ⟨-, -, -, listed, -⟩ := check_grantDemands.mp met
      cases actions with
      | nil => exact absurd rfl listed
      | cons action rest => exact List.cons_ne_nil _ _
    simp only [result, after, done, attempt, noted, sameResult, sameDeeds]
    refine ⟨passed, failed, streak, ?_, ?_, fun t => streak.effective_iff, streak.ok_iff, ?_⟩
    · rw [streak.course]
      exact Round.writes_eq me.id _
    · rw [sameRelations, accepts.relations, streak.accepted_eq]
    · intro succeeded
      rw [Current, sameIndex, sameRelations]
      exact current_commitGrants me serves (.inr listed) succeeded

/-- Reading is granted, writing is refused, and deleting is not tried. -/
theorem adjust_streak_readable :
    let actions := ["read", "read", "write", "delete"]
    let attempt := adjust { id := "a" } .insert "editor" "docs" "doc" actions
    let after := Mutation.readable.run 0 attempt
    (∃ passed failed,
      Streak "a" ((grantsOf "editor" "docs" "doc" actions).map fun g => (.insert, .grant g)) after.1
        (deeds 0 attempt.run Mutation.readable) passed failed) ∧
    after.1 = .error (.store (.unavailable "down")) ∧
    after.2.relations =
      Relations.empty.writeAll .insert [.grant ⟨"editor", "docs", "doc", "read"⟩] := by
  intro actions attempt after
  have serves : Mutation.readable.Serves 0 := ⟨rfl, rfl⟩
  have met : Demand.check (grantDemands "editor" "docs" "doc" actions) = .ok () :=
    check_grantDemands.mpr (by decide)
  have course := @adjust_streak { id := "a" } 0 Mutation.readable serves Mutation.harmless_readable
    .insert "editor" "docs" "doc" actions
  rw [met] at course
  obtain ⟨passed, failed, streak, -⟩ := course
  refine ⟨⟨passed, failed, streak⟩, ?_, by decide +kernel⟩
  exact Fleet.refusal_eq_some_iff.mp (by decide +kernel)

/-- The action is given and no fault is armed, but the role is blank: nothing is granted. -/
theorem adjust_not_streak :
    let lone : Fleet := { members := [some ⟨{ id := "a" }, .empty⟩] }
    let attempt := adjust { id := "a" } .insert " " "docs" "doc" ["read"]
    lone.Serves 0 ∧ lone.Harmless ∧ Text.isBlank "read" = false ∧
      (lone.run 0 attempt).1 = .error (.missing "role") ∧
      ¬ ∃ passed failed,
        Streak "a" ((grantsOf " " "docs" "doc" ["read"]).map fun g => (.insert, .grant g))
          (lone.run 0 attempt).1 (deeds 0 attempt.run lone) passed failed := by
  intro lone attempt
  have unmet : Demand.check (grantDemands " " "docs" "doc" ["read"]) = .error (.missing "role") :=
    rfl
  have idle : attempt.run = .done (.error (.missing "role")) :=
    adjust_of_check_error { id := "a" } unmet
  refine ⟨⟨rfl, rfl⟩, ?_, rfl, by rw [Fleet.run, idle, Call.run_done], ?_⟩
  · rintro change fact effect ⟨fault, member, -⟩
    cases member
  · rintro ⟨passed, failed, streak⟩
    -- A failure would be that of a round, but there is none.
    cases broken : failed with
    | none =>
      have ok := (streak.whole broken).2
      rw [Fleet.run, idle] at ok
      cases ok
    | some t =>
      have course := streak.course
      rw [idle, broken] at course
      simp [Round.deeds] at course

end Authority

end Entitlement
