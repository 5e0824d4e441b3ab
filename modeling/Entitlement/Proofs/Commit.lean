import Entitlement.Proofs.Deed
import Entitlement.Proofs.Mirror

/-!
# Commits

Everything that a rebuild and the commit of one fact can come to, whatever faults are armed. What
follows about calls that commit rests on these two lists of cases and on the frame.
-/

namespace Entitlement

theorem mapError_ok {α ε τ : Type} (wrap : ε → τ) (value : α) :
    (Except.ok value).mapError wrap = .ok value := rfl

theorem mapError_error {α ε τ : Type} (wrap : ε → τ) (cause : ε) :
    (Except.error cause : Except ε α).mapError wrap = .error (wrap cause) := rfl

namespace Fleet

variable {k : Nat} {f g : Fleet}

/-! ### A rebuild -/

/-- What a rebuild can come to: result, deeds and the fleet afterwards. -/
inductive Rebuilt (f : Fleet) (k : Nat) : Except Failure Unit → List Deed → Fleet → Prop
  | fresh {g : Fleet} (relations : g.relations = f.relations)
      (index : g.indexOf k = f.relations.index) : Rebuilt f k (.ok ()) [.rebuilt none] g
  | stopped {g : Fleet} {effect : StoreEffect} (armed : f.Armed .query effect)
      (relations : g.relations = f.relations) (index : g.indexOf k = f.indexOf k) :
      Rebuilt f k (.error (.store effect.failure)) [.rebuilt (some effect.failure)] g

private theorem buildIndex_cases (serves : f.Serves k) :
    let built := Replica.buildIndex.run.run (handler k) f
    built.2.relations = f.relations ∧ built.2.members = f.members ∧
    ((built.1 = .ok f.relations.index ∧ deeds k Replica.buildIndex.run f = []) ∨
      ∃ effect, f.Armed .query effect ∧ built.1 = .error (.store effect.failure) ∧
        deeds k Replica.buildIndex.run f = [.rebuilt (some effect.failure)]) := by
  have framed : Framed k f _ := .of_keeps (keeps_query .allGrants f)
  have later := serves.of_framed framed
  rcases query_cases serves.honest .allGrants with grants | ⟨effect, armed, refused⟩
  -- The grants are answered, and the assignments asked for.
  · rcases query_cases later.honest .allAssignments with assignments | ⟨effect, armed, refused⟩
    · rw [query_relations] at assignments
      refine ⟨?_, ?_, .inl ⟨?_, ?_⟩⟩ <;>
        simp [Replica.buildIndex, Attempt.ofStore, Call.perform, handler, deed?, mapError_ok,
          grants, assignments, query_relations, query_members, Relations.ofAnswers_query]
    · refine ⟨?_, ?_, .inr ⟨effect, armed.of_framed framed, ?_, ?_⟩⟩ <;>
        simp [Replica.buildIndex, Attempt.ofStore, Call.perform, handler, deed?, mapError_ok,
          mapError_error, grants, refused, query_relations, query_members]
  -- Already the query for the grants is refused.
  · refine ⟨?_, ?_, .inr ⟨effect, armed, ?_, ?_⟩⟩ <;>
      simp [Replica.buildIndex, Attempt.ofStore, Call.perform, handler, deed?, mapError_error,
        refused, query_relations, query_members]

theorem rebuild_cases (serves : f.Serves k) (id : String) :
    Rebuilt f k ((Replica.rebuild id).run.run (handler k) f).1
      (deeds k (Replica.rebuild id).run f) ((Replica.rebuild id).run.run (handler k) f).2 := by
  obtain ⟨relations, members, built⟩ := buildIndex_cases serves
  rcases built with ⟨answered, none⟩ | ⟨effect, armed, failed, stopped⟩
  · have present : ((Replica.buildIndex.run.run (handler k) f).2.member? k).isSome := by
      simpa only [member?, members] using serves.present
    simp only [Replica.rebuild, Call.perform, Call.count, Call.note, Call.pure_eq, Call.act_bind,
      Call.done_bind, Call.run_act, Call.run_bind, Call.run_done, handler, deeds_act, deeds_bind,
      deeds_done, deed?, answered, none, Option.toList_none, Option.toList_some, List.append_nil,
      List.nil_append]
    refine .fresh ?_ ?_
    · simpa only [note_relations, swapIndex_relations] using relations
    · simpa only [indexOf_note] using indexOf_swapIndex present _
  · simp only [Replica.rebuild, Call.perform, Call.count, Call.note, Call.pure_eq, Call.act_bind,
      Call.done_bind, Call.run_act, Call.run_bind, Call.run_done, handler, deeds_act, deeds_bind,
      deeds_done, deed?, failed, stopped, Option.toList_none, List.append_nil, List.nil_append]
    refine .stopped armed ?_ ?_
    · simpa only [note_relations] using relations
    · simpa only [indexOf_note] using indexOf_congr members

/-! ### A commit -/

theorem announce_spec (id : String) (f : Fleet) :
    let announced := (Replica.announce id).run (handler k) f
    announced.2.relations = f.relations ∧ announced.2.members = f.members ∧
      ∃ lost, deeds k (Replica.announce id) f = [.signalled ⟨id⟩ lost] := by
  have relations := (keeps_publish ⟨id⟩ f).relations
  have members := (keeps_publish ⟨id⟩ f).members
  cases answer : (f.publish ⟨id⟩).1 with
  | ok done =>
    refine ⟨?_, ?_, none, ?_⟩ <;>
      simp [Replica.announce, Call.perform, handler, deed?, refusal, answer, relations, members]
  | error cause =>
    refine ⟨?_, ?_, some cause, ?_⟩ <;>
      simp [Replica.announce, Call.perform, Call.note, Call.count, handler, deed?, refusal, note,
        answer, relations, members]

/-- What the commit of a fact by the replica of this id can come to. The others are told unless the
write is refused. -/
inductive Committed (f : Fleet) (k : Nat) (id : String) (change : Change) (fact : Fact) :
    Except Failure Unit → List Deed → Fleet → Prop
  | refused {g : Fleet} {effect : StoreEffect}
      (armed : f.Armed (Occasion.ofWrite change fact).point effect)
      (relations : g.relations =
        if effect.persists then f.relations.write change fact else f.relations)
      (index : g.indexOf k = f.indexOf k) :
      Committed f k id change fact (.error (.store effect.failure))
        [.wrote change fact (some effect.failure) (g.relations.stores fact)] g
  | done {g : Fleet} {lost : Option SignalFailure}
      (relations : g.relations = f.relations.write change fact)
      (index : g.indexOf k = g.relations.index) :
      Committed f k id change fact (.ok ())
        [.wrote change fact none (g.relations.stores fact), .rebuilt none,
          .signalled ⟨id⟩ lost] g
  | stale {g : Fleet} {effect : StoreEffect} {lost : Option SignalFailure}
      (armed : f.Armed .query effect)
      (relations : g.relations = f.relations.write change fact)
      (index : g.indexOf k = f.indexOf k) :
      Committed f k id change fact (.error (.stale (.store effect.failure)))
        [.wrote change fact none (g.relations.stores fact),
          .rebuilt (some effect.failure), .signalled ⟨id⟩ lost] g

theorem commit_cases (serves : f.Serves k) (id : String) (change : Change) (fact : Fact) :
    Committed f k id change fact (f.run k (Replica.commit id change fact)).1
      (deeds k (Replica.commit id change fact).run f)
      (f.run k (Replica.commit id change fact)).2 := by
  have members := (keeps_write change fact f).members
  have framed : Framed k f _ := .of_keeps (keeps_write change fact f)
  rcases write_cases change fact f with ⟨answered, relations⟩ | ⟨effect, armed, refused, relations⟩
  -- The write is accepted: the index is rebuilt and the others are told, whatever the rebuild does.
  · have rebuilt := rebuild_cases (serves.of_framed framed) id
    simp only [Fleet.run, Replica.commit, Attempt.ofStore, Call.perform, mapError_ok,
      Call.pure_eq, Call.act_bind, Call.done_bind, Attempt.run_bind, Attempt.run_outcome,
      Attempt.run_liftCall, bind_assoc, Call.run_act, Call.run_bind, handler, answered, deeds_act,
      deeds_bind, deed?, refusal, Option.toList_some, List.cons_append, List.nil_append]
    generalize (Replica.rebuild id).run.run (handler k) (f.write change fact).2 = played
      at rebuilt ⊢
    generalize deeds k (Replica.rebuild id).run (f.write change fact).2 = done at rebuilt ⊢
    obtain ⟨result, g⟩ := played
    obtain ⟨unchanged, kept, lost, told⟩ := announce_spec (k := k) id g
    cases rebuilt with
    | fresh same index =>
      have final := unchanged.trans same
      have mirrored := (indexOf_congr kept).trans index
      rw [← final] at mirrored relations ⊢
      simp only [Attempt.run_pure, Call.run_done, deeds_done, told]
      exact .done relations mirrored
    | stopped armed same index =>
      have final := unchanged.trans same
      have left := (indexOf_congr kept).trans (index.trans (indexOf_congr members))
      rw [← final] at relations ⊢
      simp only [Attempt.run_fail, Call.run_done, deeds_done, told]
      exact .stale (armed.of_framed framed) relations left
  -- The write is refused, and that is all.
  · simp only [Fleet.run, Replica.commit, Attempt.ofStore, Call.perform, mapError_error,
      Call.pure_eq, Call.act_bind, Call.done_bind, Attempt.run_bind, Attempt.run_outcome,
      Attempt.run_liftCall, bind_assoc, Call.run_act, Call.run_done, handler, refused, deeds_act,
      deeds_done, deed?, refusal, Option.toList_some, List.append_nil]
    exact .refused armed relations (indexOf_congr members)

/-- The course of a commit, with the frame. -/
theorem exists_committed (serves : f.Serves k) (id : String) (change : Change) (fact : Fact) :
    ∃ result done g, (Replica.commit id change fact).run.run (handler k) f = (result, g) ∧
      deeds k (Replica.commit id change fact).run f = done ∧
      Committed f k id change fact result done g ∧ Framed k f g :=
  ⟨_, _, _, rfl, rfl, commit_cases serves id change fact,
    framed_run k (Replica.commit id change fact).run f⟩

/-! ### What every commit has in common -/

/-- The index of replica `k` lists exactly the stored content. -/
def Current (f : Fleet) (k : Nat) : Prop := f.indexOf k = f.relations.index

/-- No insertion that is refused takes effect. -/
def Inert (f : Fleet) : Prop := ∀ effect, f.Armed .insert effect → effect.persists = false

theorem Inert.of_framed (inert : f.Inert) (framed : Framed k f g) : g.Inert :=
  fun effect armed => inert effect (armed.of_framed framed)

/-- The deeds tell whether the index is current: it is after the last of those that bear on it if
this one leaves it fresh, and as before if there is none. -/
structure Tracked (f : Fleet) (k : Nat) (done : List Deed) (g : Fleet) : Prop where
  unmoved : done.filterMap Deed.fresh? = [] → f.Current k → g.Current k
  moved : (done.filterMap Deed.fresh?).getLast? = some true → g.Current k

theorem Tracked.trans {h : Fleet} {early late : List Deed} (one : Tracked f k early g)
    (two : Tracked g k late h) : Tracked f k (early ++ late) h where
  unmoved none current := by
    rw [List.filterMap_append, List.append_eq_nil_iff] at none
    exact two.unmoved none.2 (one.unmoved none.1 current)
  moved last := by
    rw [List.filterMap_append, List.getLast?_append] at last
    cases ending : (late.filterMap Deed.fresh?).getLast? with
    | none =>
      -- Nothing in the later deeds bears on the index.
      rw [ending, Option.none_or] at last
      exact two.unmoved (List.getLast?_eq_none_iff.mp ending) (one.moved last)
    | some fresh =>
      rw [ending, Option.some_or] at last
      exact two.moved (ending.trans last)

/-- An index that was current is current unless the last deed that bears on it spoils it. -/
theorem Tracked.current {done : List Deed} (tracked : Tracked f k done g) (current : f.Current k)
    (unspoilt : (done.filterMap Deed.fresh?).getLast? ≠ some false) : g.Current k := by
  cases ending : (done.filterMap Deed.fresh?).getLast? with
  | none => exact tracked.unmoved (List.getLast?_eq_none_iff.mp ending) current
  | some fresh =>
    cases fresh with
    | false => exact absurd ending unspoilt
    | true => exact tracked.moved ending

namespace Committed

variable {id : String} {change : Change} {fact : Fact} {result : Except Failure Unit}
  {done : List Deed}

/-- A commit writes once; what is not refused takes effect. -/
theorem writes (committed : Committed f k id change fact result done g) :
    ∃ refused, done.filter Deed.isWrite =
        [.wrote change fact refused (g.relations.stores fact)] ∧
      (refused = none → g.relations = f.relations.write change fact) := by
  cases committed with
  | refused armed relations index => exact ⟨_, rfl, nofun⟩
  | done relations index => exact ⟨_, rfl, fun _ => relations⟩
  | stale armed relations index => exact ⟨_, rfl, fun _ => relations⟩

theorem current (committed : Committed f k id change fact (.ok ()) done g) :
    g.relations = f.relations.write change fact ∧ g.Current k := by
  cases committed with
  | done relations index => exact ⟨relations, index⟩

theorem tracked (committed : Committed f k id change fact result done g)
    (inert : change = .insert → f.Inert) : Tracked f k done g := by
  cases committed with
  | @refused g effect armed relations index =>
    cases effective : effect.persists with
    | false =>
      -- Nothing is changed, and the deed does not bear on the index.
      have kept : g.relations = f.relations := by simpa [effective] using relations
      refine ⟨fun _ current => ?_, fun last => ?_⟩
      · rw [Current, index, kept]
        exact current
      · cases change <;> cases stored : g.relations.stores fact <;>
          simp [Deed.fresh?, stored] at last
    | true =>
      -- Only a deletion takes effect when it is refused, and then the fact is gone.
      have deleted : change = .delete := by
        cases change with
        | delete => rfl
        | insert =>
          rw [Occasion.point_ofWrite_insert] at armed
          simp [inert rfl effect armed] at effective
      subst deleted
      have gone : g.relations.stores fact = false := by
        simpa [effective, Relations.stores, Relations.write, Relations.holds_delete] using
          congrArg (·.stores fact) relations
      exact ⟨by simp [Deed.fresh?, gone], by simp [Deed.fresh?, gone]⟩
  | done relations index => exact ⟨by simp [Deed.fresh?], fun _ => index⟩
  | stale armed relations index =>
    exact ⟨by simp [Deed.fresh?], fun last => by simp [List.filterMap_cons, Deed.fresh?] at last⟩

end Committed

end Fleet

end Entitlement
