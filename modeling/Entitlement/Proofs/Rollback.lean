import Entitlement.Proofs.Notes
import Entitlement.Proofs.Rounds
import Entitlement.Proofs.Truthfulness

/-!
# What is noted of a rollback

A batch of assignments that fails takes back what it made, and notes an assignment as left in place
whenever the commit that was to delete it fails. Such a commit fails in two ways. The deletion is
refused, and the assignment is left; or it is accepted and only the rebuild after it is stopped, and
then the note is wrong. Refused writes are taken to change nothing here.
-/

namespace Entitlement

open Fleet (Current Harmless Serves deeds handler notes)

/-! ### The content, replayed -/

/-- What a deed makes of the content. -/
def Deed.replay (r : Relations) : Deed → Relations
  | wrote change fact none _ => r.write change fact
  | _ => r

/-- Only writes count. -/
theorem Deed.foldl_replay_filter (done : List Deed) (r : Relations) :
    (done.filter Deed.isWrite).foldl Deed.replay r = done.foldl Deed.replay r := by
  induction done generalizing r with
  | nil => rfl
  | cons deed rest ih => cases deed <;> exact ih _

/-- The content after a call is the one before it with the accepted writes of the call. -/
theorem Fleet.Harmless.relations_run {α : Type} {k : Nat} {f : Fleet} (harmless : f.Harmless)
    (call : Call α) :
    (call.run (handler k) f).2.relations = (deeds k call f).foldl Deed.replay f.relations := by
  induction call generalizing f with
  | done value => rfl
  | act a next ih =>
    have later := harmless.of_framed (Fleet.framed_handler k a f)
    rw [Call.run_act, ih _ later, Fleet.deeds_act, List.foldl_append]
    congr 1
    by_cases writes : ∃ change fact, a = .write change fact
    · obtain ⟨change, fact, rfl⟩ := writes
      rcases Fleet.write_cases change fact f with
        ⟨answered, relations⟩ | ⟨effect, armed, refused, relations⟩
      · simp [handler, Fleet.deed?, Fleet.refusal, answered, relations, Deed.replay]
      · rw [harmless change fact effect armed] at relations
        simp [handler, Fleet.deed?, Fleet.refusal, refused, relations, Deed.replay]
    · simp only [not_exists] at writes
      rw [Fleet.handler_relations f writes]
      cases a with
      | write change fact => exact absurd rfl (writes change fact)
      | query pattern => cases answer : (handler k (.query pattern) f).1 <;> rfl
      | _ => rfl

namespace Authority

variable {k : Nat} {f g : Fleet} {users : List String} {role domain : String} {cause : Failure}
  {done : List Deed} {tried : List Assignment} {stray : Option Stray} {undone : List Undoing}

theorem holds_foldl_insertion {r : Relations} {made : List Assignment} {fact : Fact} :
    ((made.map insertion).foldl Deed.replay r).Holds fact ↔
      (∃ a ∈ made, fact = .assignment a) ∨ r.Holds fact := by
  induction made generalizing r with
  | nil => simp
  | cons a rest ih =>
    rw [List.map_cons, List.foldl_cons, ih, insertion, Deed.replay, Relations.write,
      Relations.holds_insert]
    simp only [List.mem_cons, exists_eq_or_imp]
    rw [or_left_comm, or_assoc]

theorem holds_foldl_undoing {r : Relations} {fact : Fact} :
    ((undone.map Undoing.deed).foldl Deed.replay r).Holds fact ↔
      r.Holds fact ∧ ∀ u ∈ undone, fact = .assignment u.assignment → u.refused ≠ none := by
  induction undone generalizing r with
  | nil => simp
  | cons u rest ih =>
    rw [List.map_cons, List.foldl_cons, ih, List.forall_mem_cons]
    cases refused : u.refused with
    | some reason => simp [Undoing.deed, Deed.replay, refused]
    | none =>
      simp only [Undoing.deed, Deed.replay, refused, Relations.write, Relations.holds_delete]
      constructor
      · rintro ⟨⟨other, before⟩, kept⟩
        exact ⟨before, fun same => absurd same other, kept⟩
      · rintro ⟨before, other, kept⟩
        exact ⟨⟨fun same => other same rfl, before⟩, kept⟩

/-- What a batch took back is stored afterwards exactly if its deletion was refused. -/
theorem Unwound.holds_undone
    (unwound : Unwound f k users role domain [] cause done tried stray undone)
    (replayed : g.relations = done.foldl Deed.replay f.relations) {u : Undoing}
    (member : u ∈ undone) :
    g.relations.Holds (.assignment u.assignment) ↔ u.refused ≠ none := by
  have single {v : Undoing} (other : v ∈ undone) (same : u.assignment = v.assignment) : u = v := by
    have distinct : (undone.map Undoing.assignment).Nodup := by
      rw [unwound.takenBack, List.append_nil]
      exact unwound.distinct
    exact List.inj_on_of_nodup_map distinct member other same
  have passes (r : Relations) : (stray.toList.map Stray.deed).foldl Deed.replay r = r := by
    cases stray <;> rfl
  rw [replayed, ← Deed.foldl_replay_filter, unwound.writes, List.foldl_append, List.foldl_append,
    passes, holds_foldl_undoing, holds_foldl_insertion]
  constructor
  · exact fun ⟨_, kept⟩ => kept u member rfl
  · intro refused
    refine ⟨.inl ⟨u.assignment, List.mem_reverse.mpr (unwound.mem_tried member), rfl⟩, ?_⟩
    intro v other same
    rwa [← single other (Fact.assignment.inj same)]

end Authority

/-! ### The record of a rollback -/

/-- The assignment that the event says could not be taken back, and why. -/
def Event.undoFailure? : Event → Option (Assignment × Failure)
  | undoFailed a cause => some (a, cause)
  | _ => none

theorem Event.undoFailure?_eq_some_iff {e : Event} {a : Assignment} {cause : Failure} :
    e.undoFailure? = some (a, cause) ↔ e = .undoFailed a cause := by
  cases e <;> simp [undoFailure?]

namespace Round

theorem mem_flatMap_deeds {id : String} {rounds : List Round} {change : Change} {fact : Fact}
    {refused : Option StoreFailure} {stored : Bool} :
    .wrote change fact refused stored ∈ rounds.flatMap (Round.deeds id) ↔
      ∃ t ∈ rounds, t.write = (change, fact) ∧ t.refused = refused ∧ t.stored = stored := by
  have own (t : Round) : .wrote change fact refused stored ∈ t.deeds id ↔
      t.write = (change, fact) ∧ t.refused = refused ∧ t.stored = stored := by
    cases effective : t.effective <;>
      simp [deeds, effective, Round.write, and_assoc, eq_comm]
  simp only [List.mem_flatMap, own]

theorem exists_error_of_refused {t : Round} (refused : t.effective = false) :
    ∃ cause, t.result = .error cause := by
  cases returned : t.result with
  | error cause => exact ⟨cause, rfl⟩
  | ok =>
    rw [effective_of_ok returned] at refused
    cases refused

/-- The assignment whose deletion failed in the round, and how. -/
def undoFailure? (t : Round) : Option (Assignment × Failure) :=
  match t.write, t.result with
  | (.delete, .assignment a), .error cause => some (a, cause)
  | _, _ => none

theorem undoFailure?_eq_some_iff {t : Round} {a : Assignment} {cause : Failure} :
    t.undoFailure? = some (a, cause) ↔
      t.write = (.delete, .assignment a) ∧ t.result = .error cause := by
  unfold undoFailure?
  constructor
  · intro found
    split at found
    · cases found
      exact ⟨‹_›, ‹_›⟩
    · cases found
  · rintro ⟨write, result⟩
    rw [write, result]

theorem undoFailure?_of_insert {t : Round} {fact : Fact} (write : t.write = (.insert, fact)) :
    t.undoFailure? = none := by
  cases found : t.undoFailure? with
  | none => rfl
  | some failure =>
    rw [(undoFailure?_eq_some_iff.mp found).1] at write
    cases write

theorem undoFailure?_of_ok {t : Round} (result : t.result = .ok ()) : t.undoFailure? = none := by
  cases found : t.undoFailure? with
  | none => rfl
  | some failure =>
    rw [(undoFailure?_eq_some_iff.mp found).2] at result
    cases result

end Round

/-- The deeds are those of rounds, and the log tells of the rounds in which a deletion failed. -/
def Logged (id : String) (done : List Deed) (log : List Event) : Prop :=
  ∃ rounds : List Round, done = rounds.flatMap (Round.deeds id) ∧
    log.filterMap Event.undoFailure? = rounds.filterMap Round.undoFailure?

theorem Logged.nil (id : String) : Logged id [] [] := ⟨[], rfl, rfl⟩

theorem Logged.append {id : String} {early late : List Deed} {before after : List Event}
    (one : Logged id early before) (two : Logged id late after) :
    Logged id (early ++ late) (before ++ after) := by
  obtain ⟨rounds, sameDeeds, sameLog⟩ := one
  obtain ⟨others, otherDeeds, otherLog⟩ := two
  refine ⟨rounds ++ others, ?_, ?_⟩
  · rw [List.flatMap_append, sameDeeds, otherDeeds]
  · rw [List.filterMap_append, List.filterMap_append, sameLog, otherLog]

namespace Call

variable {α β : Type} {k : Nat} {id : String}

/-- Whenever replica `k` plays the call through, what it notes is the log of what it did. -/
def Logs (k : Nat) (id : String) (call : Call α) : Prop :=
  ∀ f : Fleet, f.Serves k → Logged id (deeds k call f) (notes k call f)

theorem Logs.done (value : α) : (Call.done value).Logs k id := fun _ _ => .nil id

theorem Logs.bind {call : Call α} {next : α → Call β} (one : call.Logs k id)
    (two : ∀ value, (next value).Logs k id) : (call >>= next).Logs k id := by
  intro f serves
  rw [Fleet.deeds_bind, Fleet.notes_bind]
  exact (one f serves).append (two _ _ (serves.of_framed (Fleet.framed_run k call f)))

/-- A look at the index is neither a deed nor noted. -/
theorem Logs.look {next : Index → Call α} (rest : ∀ index, (next index).Logs k id) :
    (act .readIndex next).Logs k id := by
  intro f serves
  rw [Fleet.deeds_act, Fleet.notes_act]
  exact rest _ _ serves

theorem Logs.event {e : Event} {next : Unit → Call α} (other : e.undoFailure? = none)
    (rest : (next ()).Logs k id) : (act (.note (.event e)) next).Logs k id := by
  intro f serves
  rw [Fleet.deeds_act, Fleet.notes_act]
  have noted : Logged id [] [e] := ⟨[], rfl, by simp [other]⟩
  exact noted.append (rest _ ⟨serves.honest, serves.present⟩)

end Call

namespace Replica

open Call (Notes)

theorem notes_rebuild (id : String) :
    (rebuild id).run.Notes fun e => e.undoFailure? = none := by
  simp only [rebuild, Call.perform, Call.act_bind, Call.done_bind]
  refine .step rfl fun _ => .step rfl fun grants => ?_
  cases grants with
  | error cause => exact .step rfl fun _ => .event rfl (.step rfl fun _ => trivial)
  | ok grants =>
    refine .step rfl fun assignments => ?_
    cases assignments with
    | error cause => exact .step rfl fun _ => .event rfl (.step rfl fun _ => trivial)
    | ok assignments =>
      refine .step rfl fun _ => .step rfl fun _ => .step rfl fun _ => ?_
      exact .event rfl (.step rfl fun _ => trivial)

theorem notes_announce (id : String) :
    (announce id).Notes fun e => e.undoFailure? = none := by
  refine .step rfl fun answer => ?_
  cases answer with
  | ok => trivial
  | error cause => exact .step rfl fun _ => .event rfl trivial

/-- A commit notes nothing about taking back. -/
theorem notes_commit (id : String) (change : Change) (fact : Fact) :
    (commit id change fact).run.Notes fun e => e.undoFailure? = none := by
  simp only [commit, Attempt.ofStore, Attempt.run_bind, Attempt.run_outcome, Attempt.run_liftCall,
    Call.perform, Call.act_bind, Call.done_bind, Call.pure_eq, bind_assoc]
  refine .step rfl fun answer => ?_
  cases answer with
  | error cause => trivial
  | ok =>
    refine (notes_rebuild id).bind fun rebuilt => (notes_announce id).bind fun _ => ?_
    cases rebuilt <;> trivial

/-- The commit of a fact is a round, and it leaves it to the caller to note a failure. -/
theorem exists_round_commit {k : Nat} {f : Fleet} (serves : f.Serves k) (id : String)
    (change : Change) (fact : Fact) :
    ∃ t : Round, t.write = (change, fact) ∧ t.deeds id = deeds k (commit id change fact).run f ∧
      t.result = ((commit id change fact).run.run (handler k) f).1 ∧
      (notes k (commit id change fact).run f).filterMap Event.undoFailure? = [] := by
  obtain ⟨t, write, result, same⟩ := (Fleet.commit_cases serves id change fact).exists_round
  refine ⟨t, write, same, result, ?_⟩
  rw [List.filterMap_eq_nil_iff]
  exact fun e noted => Fleet.allowed_of_notes (notes_commit id change fact) noted

theorem logs_insert (k : Nat) (id : String) (fact : Fact) :
    (commit id .insert fact).run.Logs k id := by
  intro f serves
  obtain ⟨t, write, same, -, silent⟩ := exists_round_commit serves id .insert fact
  refine ⟨[t], ?_, ?_⟩
  · rw [List.flatMap_singleton, same]
  · simp [silent, Round.undoFailure?_of_insert write]

end Replica

namespace Authority

open Call (Logs)

variable (me : Profile) {k : Nat} {f : Fleet} {users : List String} {role domain : String}

/-- Taking back notes each deletion that failed. -/
theorem logs_undo (k : Nat) (made : List Assignment) : (undo me made).Logs k me.id := by
  induction made with
  | nil => exact .done ()
  | cons a rest ih =>
    intro f serves
    obtain ⟨t, write, same, result, silent⟩ :=
      Replica.exists_round_commit serves me.id .delete (.assignment a)
    have later := serves.of_framed
      (Fleet.framed_run k (Replica.commit me.id .delete (.assignment a)).run f)
    rw [undo_cons, Fleet.deeds_bind, Fleet.notes_bind, ← same]
    generalize notes k (Replica.commit me.id .delete (.assignment a)).run f = early at silent ⊢
    generalize ((Replica.commit me.id .delete (.assignment a)).run.run (handler k) f) = played
      at result later ⊢
    obtain ⟨outcome, g⟩ := played
    have own : Logged me.id (t.deeds me.id) (early ++ (match outcome with
        | .ok _ => []
        | .error cause => [.undoFailed a cause])) := by
      refine ⟨[t], by rw [List.flatMap_singleton], ?_⟩
      cases outcome with
      | ok => simp [silent, Round.undoFailure?_of_ok result]
      | error cause =>
        have failure := Round.undoFailure?_eq_some_iff.mpr ⟨write, result⟩
        simp [silent, failure, Event.undoFailure?]
    cases outcome with
    | ok => simpa using own.append (ih g later)
    | error cause =>
      have noted := own.append (ih (g.note (.event (.undoFailed a cause)))
        ⟨later.honest, later.present⟩)
      simpa [handler, Fleet.deed?, Action.event?] using noted

theorem logs_assignEach (k : Nat) (made : List Assignment) :
    (assignEach me role domain users made).run.Logs k me.id := by
  induction users generalizing made with
  | nil => exact .event rfl (.done _)
  | cons user rest ih =>
    rw [assignEach_cons]
    refine .look fun index => ?_
    split
    · exact ih made
    · refine (Replica.logs_insert k me.id _).bind fun result => ?_
      cases result with
      | ok => exact ih _
      | error cause => exact .event rfl ((logs_undo me k _).bind fun _ => .done _)

theorem logs_assignAll (k : Nat) (users : List String) (role domain : String) :
    (assignAll me users role domain).run.Logs k me.id := by
  cases check : Demand.check (usersDemands users role domain) with
  | error unmet =>
    rw [assignAll_of_check_error me check]
    exact .done _
  | ok =>
    rw [assignAll_of_check me check]
    exact logs_assignEach me k []

/-- The batch made the assignment, and it is still there: nobody else writes meanwhile. -/
def LeftInPlace (before after : Fleet) (a : Assignment) : Prop :=
  ¬ before.relations.Holds (.assignment a) ∧ after.relations.Holds (.assignment a)

instance (before after : Fleet) (a : Assignment) : Decidable (LeftInPlace before after a) :=
  inferInstanceAs (Decidable (_ ∧ _))

/-- The assignment is noted as one that could not be taken back. -/
def Reported (log : List Event) (a : Assignment) : Prop := ∃ cause, .undoFailed a cause ∈ log

/-- The assignment was deleted, but the rebuild after that was stopped. -/
def Unseen (rounds : List Round) (a : Assignment) : Prop :=
  ∃ t ∈ rounds, t.write = (.delete, .assignment a) ∧ ∃ reason, t.result = .error (.stale reason)

theorem reported_iff {log : List Event} {rounds : List Round}
    (tells : log.filterMap Event.undoFailure? = rounds.filterMap Round.undoFailure?)
    (a : Assignment) :
    Reported log a ↔
      ∃ t ∈ rounds, t.write = (.delete, .assignment a) ∧ ∃ cause, t.result = .error cause := by
  have noted : Reported log a ↔ ∃ cause, (a, cause) ∈ log.filterMap Event.undoFailure? := by
    simp only [Reported, List.mem_filterMap, Event.undoFailure?_eq_some_iff, exists_eq_right]
  rw [noted, tells]
  simp only [List.mem_filterMap, Round.undoFailure?_eq_some_iff]
  constructor
  · rintro ⟨cause, t, member, write, result⟩
    exact ⟨t, member, write, cause, result⟩
  · rintro ⟨t, member, write, cause, result⟩
    exact ⟨cause, t, member, write, result⟩

section Failing

variable {cause : Failure} {rounds : List Round} {a : Assignment}
  (serves : f.Serves k) (current : f.Current k) (harmless : f.Harmless)
  (named : ∀ user ∈ users, user ≠ "")
  (failed : ((assignEach me role domain users []).run.run (handler k) f).1 = .error cause)
  (course : deeds k (assignEach me role domain users []).run f =
    rounds.flatMap (Round.deeds me.id))
include serves current harmless named failed course

/-- An assignment whose deletion was tried is left in place exactly if the deletion was refused. -/
theorem leftInPlace_iff {t : Round} (member : t ∈ rounds)
    (write : t.write = (.delete, .assignment a)) :
    LeftInPlace f ((assignEach me role domain users []).run.run (handler k) f).2 a ↔
      t.effective = false := by
  obtain ⟨tried, stray, undone, unwound, -⟩ := assignEach_unwinds me serves named failed
  have deleted : .wrote .delete (.assignment a) t.refused t.stored ∈
      deeds k (assignEach me role domain users []).run f := by
    rw [course]
    exact Round.mem_flatMap_deeds.mpr ⟨t, member, write, rfl, rfl⟩
  obtain ⟨u, inUndone, ⟨⟩, refused, -⟩ := unwound.mem_done_delete.mp deleted
  have new := unwound.new current named _ (List.mem_append_left _ (unwound.mem_tried inUndone))
  have stored := unwound.holds_undone (harmless.relations_run _) inUndone
  rw [LeftInPlace, stored, refused]
  simp [new, Round.effective, Option.isNone_eq_false_iff, Option.isSome_iff_ne_none]

/-- What is left in place was tried to be deleted. -/
theorem exists_round_of_leftInPlace
    (left : LeftInPlace f ((assignEach me role domain users []).run.run (handler k) f).2 a) :
    ∃ t ∈ rounds, t.write = (.delete, .assignment a) := by
  obtain ⟨tried, stray, undone, unwound, -⟩ := assignEach_unwinds me serves named failed
  have content := fun fact => Fleet.stores_run (k := k)
    (assignEach me role domain users []).run fact f
  rcases (unwound.holds_iff content current harmless.inert named (.assignment a)).mp left.2 with
    before | ⟨-, refusal, deleted⟩
  · exact absurd before left.1
  · rw [course] at deleted
    obtain ⟨t, member, write, -⟩ := Round.mem_flatMap_deeds.mp deleted
    exact ⟨t, member, write⟩

theorem reported_iff_leftInPlace_or_unseen {log : List Event}
    (tells : log.filterMap Event.undoFailure? = rounds.filterMap Round.undoFailure?) :
    Reported log a ↔
      LeftInPlace f ((assignEach me role domain users []).run.run (handler k) f).2 a ∨
        Unseen rounds a := by
  rw [reported_iff tells]
  constructor
  · rintro ⟨t, member, write, reason, result⟩
    cases flag : reason.writePersisted with
    | false =>
      left
      rw [leftInPlace_iff me serves current harmless named failed course member write,
        Round.effective_of_error result, flag]
    | true =>
      obtain ⟨inner, rfl⟩ := Failure.writePersisted_iff.mp flag
      exact .inr ⟨t, member, write, inner, result⟩
  · rintro (left | ⟨t, member, write, reason, result⟩)
    · obtain ⟨t, member, write⟩ :=
        exists_round_of_leftInPlace me serves current harmless named failed course left
      rw [leftInPlace_iff me serves current harmless named failed course member write] at left
      exact ⟨t, member, write, Round.exists_error_of_refused left⟩
    · exact ⟨t, member, write, _, result⟩

theorem not_leftInPlace_of_unseen (unseen : Unseen rounds a) :
    ¬ LeftInPlace f ((assignEach me role domain users []).run.run (handler k) f).2 a := by
  obtain ⟨t, member, write, reason, result⟩ := unseen
  rw [leftInPlace_iff me serves current harmless named failed course member write,
    Round.effective_of_error result]
  exact nofun

end Failing

/-- The record of a batch that fails lists the deletions that failed, in their order. It tells of
each assignment that is left in place, and besides only of those that were deleted and whose rebuild
was stopped; so without such a one it tells of exactly what is left. -/
theorem assignAll_reports {cause : Failure} (serves : f.Serves k) (current : f.Current k)
    (harmless : f.Harmless) (failed : (f.run k (assignAll me users role domain)).1 = .error cause) :
    let attempt := assignAll me users role domain
    let after := (f.run k attempt).2
    ∃ rounds log,
      deeds k attempt.run f = rounds.flatMap (Round.deeds me.id) ∧
      after.telemetry.events = f.telemetry.events ++ log ∧
      log.filterMap Event.undoFailure? = rounds.filterMap Round.undoFailure? ∧
      ∀ a, (Reported log a ↔ LeftInPlace f after a ∨ Unseen rounds a) ∧
        ((Reported log a ↔ LeftInPlace f after a) ↔ ¬ Unseen rounds a) := by
  intro attempt after
  obtain ⟨rounds, course, tells⟩ := logs_assignAll me k users role domain f serves
  refine ⟨rounds, notes k attempt.run f, course, Fleet.events_run attempt.run f, tells, fun a => ?_⟩
  have told : (Reported (notes k attempt.run f) a ↔ LeftInPlace f after a ∨ Unseen rounds a) ∧
      (Unseen rounds a → ¬ LeftInPlace f after a) := by
    cases check : Demand.check (usersDemands users role domain) with
    | error unmet =>
      -- Nothing is done and nothing is noted.
      have idle : attempt.run = .done (.error unmet) := assignAll_of_check_error me check
      have none : rounds = [] := by
        rw [idle, Fleet.deeds_done] at course
        cases rounds with
        | nil => rfl
        | cons t rest => simp [Round.deeds] at course
      have unchanged : after = f := by simp [after, Fleet.run, idle]
      simp [idle, none, unchanged, Reported, LeftInPlace, Unseen]
    | ok =>
      have same := assignAll_of_check me check
      have named := named_of_check check
      simp only [after, attempt, Fleet.run, same] at failed course tells ⊢
      exact ⟨reported_iff_leftInPlace_or_unseen me serves current harmless named failed course
        tells, not_leftInPlace_of_unseen me serves current harmless named failed course⟩
  obtain ⟨reported, apart⟩ := told
  refine ⟨reported, ?_⟩
  rw [reported]
  constructor
  · exact fun only unseen => apart unseen (only.mp (.inr unseen))
  · exact fun seen => or_iff_left seen

/-- One replica over an empty store that refuses to insert Bob and to delete Carol, and that answers
so many queries, refuses one, and then answers again. -/
def rattled (answered : Nat) : Fleet :=
  { members := [some ⟨{ id := "a" }, .empty⟩],
    storeFaults := [refusing { point := .insert, user := some "bob" } false,
      refusing { point := .delete, user := some "carol" } false,
      { refusing { point := .query } false with skip := answered, times := some 1 }] }

theorem harmless_rattled (answered : Nat) : (rattled answered).Harmless := by
  rintro change fact effect ⟨fault, member, -, rfl⟩
  simp only [rattled, List.mem_cons, List.not_mem_nil, or_false] at member
  rcases member with rfl | rfl | rfl <;> rfl

/-- Carol is left in place and noted. Alice is noted as well, but only her rebuild was stopped. -/
theorem assignAll_reports_rattled :
    let attempt := assignAll { id := "a" } ["carol", "alice", "bob"] "viewer" "docs"
    let after := ((rattled 4).run 0 attempt).2
    ∃ rounds : List Round,
      deeds 0 attempt.run (rattled 4) = rounds.flatMap (Round.deeds "a") ∧
      Reported after.telemetry.events ⟨"carol", "viewer", "docs"⟩ ∧
      ¬ Unseen rounds ⟨"carol", "viewer", "docs"⟩ ∧ Unseen rounds ⟨"alice", "viewer", "docs"⟩ := by
  intro attempt after
  have serves : (rattled 4).Serves 0 := ⟨rfl, rfl⟩
  have failed : ((rattled 4).run 0 attempt).1 = .error (.store (.unavailable "down")) :=
    Fleet.refusal_eq_some_iff.mp (by decide +kernel)
  obtain ⟨rounds, log, course, events, -, told⟩ :=
    assignAll_reports { id := "a" } serves rfl (harmless_rattled 4) failed
  have carol : LeftInPlace (rattled 4) after ⟨"carol", "viewer", "docs"⟩ := by decide +kernel
  have alice : ¬ LeftInPlace (rattled 4) after ⟨"alice", "viewer", "docs"⟩ := by decide +kernel
  have noted : Reported after.telemetry.events ⟨"alice", "viewer", "docs"⟩ :=
    ⟨.stale (.store (.unavailable "down")), by decide +kernel⟩
  obtain rfl : after.telemetry.events = log := events
  have reported := (told _).1.mpr (.inl carol)
  exact ⟨rounds, course, reported, (told _).2.mp (iff_of_true reported carol),
    ((told _).1.mp noted).resolve_left alice⟩

/-- Alice is noted as left in place, and she is gone. -/
theorem assignAll_misreports :
    let attempt := assignAll { id := "a" } ["alice", "bob"] "viewer" "docs"
    let after := ((rattled 2).run 0 attempt).2
    (rattled 2).Serves 0 ∧ (rattled 2).Current 0 ∧ (rattled 2).Harmless ∧
      ((rattled 2).run 0 attempt).1 = .error (.store (.unavailable "down")) ∧
      (rattled 2).telemetry.events = [] ∧
      Reported after.telemetry.events ⟨"alice", "viewer", "docs"⟩ ∧
      ¬ LeftInPlace (rattled 2) after ⟨"alice", "viewer", "docs"⟩ := by
  refine ⟨⟨rfl, rfl⟩, rfl, harmless_rattled 2, ?_, rfl, ?_, by decide +kernel⟩
  · exact Fleet.refusal_eq_some_iff.mp (by decide +kernel)
  · exact ⟨.stale (.store (.unavailable "down")), by decide +kernel⟩

end Authority

end Entitlement
