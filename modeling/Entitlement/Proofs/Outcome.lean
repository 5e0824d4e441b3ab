import Entitlement.Proofs.Commit
import Entitlement.Proofs.Course

/-!
# What becomes of one change

A commit makes up to four requests that can be refused: the write, the two queries of the rebuild,
and the signal to the others. Which of them are refused decides everything else about it: which
requests are made and in which order, what the call answers, and what it leaves in the store and in
the index. The index that it begins with may be as old as it likes.
-/

namespace Entitlement

/-- Locks and records are no steps of the work. -/
def Action.aside : Action → Bool
  | .acquireLock | .releaseLock | .note _ => true
  | _ => false

/-- What each request of a commit is refused with. A request need not be made at all. -/
structure Refusals where
  write : Option StoreFailure := none
  grants : Option StoreFailure := none
  assignments : Option StoreFailure := none
  publish : Option SignalFailure := none
deriving DecidableEq, Repr, Inhabited

/-- The answer to a request that is to bring this value. -/
def reply {ε α : Type} (value : α) : Option ε → Except ε α
  | none => .ok value
  | some cause => .error cause

namespace Refusals

variable (refused : Refusals)

/-- What the rebuild is stopped by. -/
def rebuild : Option StoreFailure := refused.grants.or refused.assignments

def result : Except Failure Unit :=
  match refused.write, refused.rebuild with
  | some cause, _ => .error (.store cause)
  | none, some cause => .error (.stale (.store cause))
  | none, none => .ok ()

/-- The answer says nothing about the signal. -/
theorem result_publish (publish : Option SignalFailure) :
    { refused with publish }.result = refused.result := rfl

/-- A rebuild over this content: a query is made if the one before it is answered, and the index
replaced if both are. -/
def rebuildSteps (content : Relations) : List Step :=
  ⟨.query .allGrants, reply (content.query .allGrants) refused.grants⟩ ::
    if refused.grants = none then
      ⟨.query .allAssignments, reply (content.query .allAssignments) refused.assignments⟩ ::
        if refused.assignments = none then [⟨.swapIndex content.index, ()⟩] else []
    else []

/-- A commit over this content. -/
def steps (id : String) (change : Change) (fact : Fact) (content : Relations) : List Step :=
  ⟨.write change fact, reply () refused.write⟩ ::
    if refused.write = none then
      refused.rebuildSteps (content.write change fact) ++
        [⟨.publish ⟨id⟩, reply () refused.publish⟩]
    else []

end Refusals

namespace Fleet

/-- The steps of a call of replica `k`, in order, when it is played through. -/
def steps {α : Type} (k : Nat) (call : Call α) (f : Fleet) : List Step :=
  (call.actions (handler k) f).filter (!·.1.aside)

/-- What the faults make of the requests of a commit when each is made after the one before it. -/
def refusals (id : String) (change : Change) (fact : Fact) (f : Fleet) : Refusals :=
  let written := f.write change fact
  let grants := written.2.query .allGrants
  let assignments := grants.2.query .allAssignments
  let published := assignments.2.publish ⟨id⟩
  { write := refusal written.1, grants := refusal grants.1, assignments := refusal assignments.1,
    publish := refusal published.1 }

variable {α β : Type} {k : Nat} {f g : Fleet}

@[simp] theorem steps_done (value : α) : steps k (.done value) f = [] := rfl

@[simp] theorem steps_act (a : Action) (next : a.Answer → Call α) :
    steps k (.act a next) f =
      (if a.aside then [] else [⟨a, (handler k a f).1⟩]) ++
        steps k (next (handler k a f).1) (handler k a f).2 := by
  simp only [steps, Call.actions, List.filter_cons]
  cases a.aside <;> rfl

@[simp] theorem steps_bind (call : Call α) (next : α → Call β) :
    steps k (call >>= next) f = steps k call f ++
      steps k (next (call.run (handler k) f).1) (call.run (handler k) f).2 := by
  rw [steps, Call.actions_bind, List.filter_append]
  rfl

/-! ### The single requests -/

theorem reply_refusal {ε : Type} (answer : Except ε Unit) : reply () (refusal answer) = answer := by
  cases answer <;> rfl

theorem query_eq_reply (honest : f.rigged = none) (pattern : FactPattern) :
    (f.query pattern).1 = reply (f.relations.query pattern) (refusal (f.query pattern).1) := by
  rcases query_cases honest pattern with answered | ⟨effect, -, refused⟩
  · rw [answered]
    rfl
  · rw [refused]
    rfl

theorem strikeStore_signalFaults (call : Occasion) (f : Fleet)
    (signalFaults : List (Fault Occasion SignalFailure)) :
    { f with signalFaults }.strikeStore call =
      ((f.strikeStore call).1, { (f.strikeStore call).2 with signalFaults }) := rfl

theorem write_signalFaults (change : Change) (fact : Fact) (f : Fleet)
    (signalFaults : List (Fault Occasion SignalFailure)) :
    { f with signalFaults }.write change fact =
      ((f.write change fact).1, { (f.write change fact).2 with signalFaults }) := by
  simp only [write, strikeStore_signalFaults]
  obtain ⟨struck, g⟩ := f.strikeStore (.ofWrite change fact)
  cases struck <;> rfl

theorem query_signalFaults (pattern : FactPattern) (f : Fleet)
    (signalFaults : List (Fault Occasion SignalFailure)) :
    { f with signalFaults }.query pattern =
      ((f.query pattern).1, { (f.query pattern).2 with signalFaults }) := by
  simp only [query, strikeStore_signalFaults]
  obtain ⟨struck, g⟩ := f.strikeStore (.ofQuery pattern)
  cases struck <;> rfl

theorem publish_fst_congr (s : Signal) (same : g.signalFaults = f.signalFaults) :
    (g.publish s).1 = (f.publish s).1 := by
  have struck : (g.strikeSignal { point := .publish }).1 =
      (f.strikeSignal { point := .publish }).1 := by
    rw [strikeSignal, same]
    rfl
  have answer (f : Fleet) :
      (f.publish s).1 = reply () (f.strikeSignal { point := .publish }).1 := by
    rw [publish]
    obtain ⟨struck, g⟩ := f.strikeSignal { point := .publish }
    cases struck <;> rfl
  rw [answer, answer, struck]

/-! ### The rebuild -/

@[simp] theorem write_signalFaults_eq (change : Change) (fact : Fact) (f : Fleet) :
    (f.write change fact).2.signalFaults = f.signalFaults := by
  rw [write_signalFaults change fact f f.signalFaults]

@[simp] theorem query_signalFaults_eq (pattern : FactPattern) (f : Fleet) :
    (f.query pattern).2.signalFaults = f.signalFaults := by
  rw [query_signalFaults pattern f f.signalFaults]

@[simp] theorem note_signalFaults (t : Trace) (f : Fleet) :
    (f.note t).signalFaults = f.signalFaults := rfl

@[simp] theorem swapIndex_signalFaults (index : Index) (f : Fleet) :
    (f.swapIndex k index).signalFaults = f.signalFaults := rfl

@[simp] theorem indexOf_query (pattern : FactPattern) (f : Fleet) :
    (f.query pattern).2.indexOf k = f.indexOf k := indexOf_congr (query_members pattern f)

/-- A rebuild over the content of the store, of which these requests are refused. -/
theorem rebuild_outcome (serves : f.Serves k) (id : String) (refused : Refusals)
    (grants : refused.grants = refusal (f.query .allGrants).1)
    (assignments : refused.assignments =
      refusal ((f.query .allGrants).2.query .allAssignments).1) :
    let rebuilt := (Replica.rebuild id).run.run (handler k) f
    rebuilt.1 = reply () (refused.rebuild.map Failure.store) ∧
      steps k (Replica.rebuild id).run f = refused.rebuildSteps f.relations ∧
      rebuilt.2.relations = f.relations ∧
      rebuilt.2.indexOf k = (if refused.rebuild = none then f.relations.index else f.indexOf k) ∧
      rebuilt.2.signalFaults = f.signalFaults := by
  have framed : Framed k f _ := .of_keeps (keeps_query .allGrants f)
  have present : (((f.query .allGrants).2.query .allAssignments).2.member? k).isSome := by
    simpa only [member?, query_members] using serves.present
  have first := query_eq_reply serves.honest .allGrants
  have second := query_eq_reply (serves.of_framed framed).honest .allAssignments
  rw [← grants] at first
  rw [← assignments, query_relations] at second
  cases noGrants : refused.grants with
  -- The assignments are not asked for.
  | some cause =>
    simp only [noGrants, reply] at first
    refine ⟨?_, ?_, ?_, ?_, ?_⟩ <;>
      simp [Replica.rebuild, Replica.buildIndex, Attempt.ofStore, Call.perform, Call.count,
        Call.note, handler, mapError_error, first, Refusals.rebuild, Refusals.rebuildSteps,
        noGrants, reply, Action.aside, query_relations, Except.map]
  | none =>
    simp only [noGrants, reply] at first
    cases noAssignments : refused.assignments with
    | some cause =>
      simp only [noAssignments, reply] at second
      refine ⟨?_, ?_, ?_, ?_, ?_⟩ <;>
        simp [Replica.rebuild, Replica.buildIndex, Attempt.ofStore, Call.perform, Call.count,
          Call.note, handler, mapError_ok, mapError_error, first, second, Refusals.rebuild,
          Refusals.rebuildSteps, noGrants, noAssignments, reply, Action.aside, query_relations,
          Except.map]
    | none =>
      simp only [noAssignments, reply] at second
      refine ⟨?_, ?_, ?_, ?_, ?_⟩ <;>
        simp [Replica.rebuild, Replica.buildIndex, Attempt.ofStore, Call.perform, Call.count,
          Call.note, handler, mapError_ok, first, second, Refusals.rebuild,
          Refusals.rebuildSteps, noGrants, noAssignments, reply, Action.aside, query_relations,
          Relations.ofAnswers_query, indexOf_swapIndex present, Except.map]

/-! ### The commit -/

/-- The signal to the others is the last step, and it changes neither the content nor an index. -/
theorem announce_outcome (id : String) (f : Fleet) :
    let announced := (Replica.announce id).run (handler k) f
    steps k (Replica.announce id) f = [⟨.publish ⟨id⟩, (f.publish ⟨id⟩).1⟩] ∧
      announced.2.relations = f.relations ∧ announced.2.indexOf k = f.indexOf k := by
  obtain ⟨relations, members, -⟩ := announce_spec (k := k) id f
  refine ⟨?_, relations, indexOf_congr members⟩
  cases answer : (f.publish ⟨id⟩).1 <;>
    simp [Replica.announce, Call.perform, Call.note, Call.count, handler, Action.aside, answer]

/-- The requests of a commit that are refused decide its steps, its answer, and what it leaves. -/
theorem commit_of_refusals (serves : f.Serves k) (id : String) {change : Change} {fact : Fact}
    (harmless : (f.write change fact).1 ≠ .ok () →
      (f.write change fact).2.relations = f.relations) :
    let refused := f.refusals id change fact
    let commit := Replica.commit id change fact
    let after := f.run k commit
    steps k commit.run f = refused.steps id change fact f.relations ∧
      after.1 = refused.result ∧
      after.2.relations =
        (if refused.write = none then f.relations.write change fact else f.relations) ∧
      after.2.indexOf k =
        (match refused.result with
          | .ok () => after.2.relations.index
          | .error _ => f.indexOf k) := by
  have members := (keeps_write change fact f).members
  have framed : Framed k f _ := .of_keeps (keeps_write change fact f)
  rcases write_cases change fact f with ⟨answered, relations⟩ | ⟨effect, armed, refuses, relations⟩
  -- The write is accepted: the index is rebuilt and the others are told, whatever the rebuild does.
  · have accepted : (f.refusals id change fact).write = none := by
      simp [refusals, answered, refusal]
    obtain ⟨result, steps, same, index, signalFaults⟩ :=
      rebuild_outcome (serves.of_framed framed) id (f.refusals id change fact) rfl rfl
    simp only [Fleet.run, Replica.commit, Attempt.ofStore, Call.perform, mapError_ok,
      Call.pure_eq, Call.act_bind, Call.done_bind, Attempt.run_bind, Attempt.run_outcome,
      Attempt.run_liftCall, bind_assoc, Call.run_act, Call.run_bind, handler, answered, steps_act,
      steps_bind, Action.aside]
    generalize (Replica.rebuild id).run.run (handler k) (f.write change fact).2 = rebuilt
      at result same index signalFaults ⊢
    obtain ⟨told, kept, left⟩ := announce_outcome (k := k) id rebuilt.2
    have signalled : (rebuilt.2.publish ⟨id⟩).1 =
        reply () (f.refusals id change fact).publish := by
      rw [refusals, reply_refusal]
      exact publish_fst_congr _ (by simpa using signalFaults)
    rw [signalled] at told
    rw [relations] at steps same index
    rw [indexOf_congr members] at index
    rw [result, steps, told, Refusals.steps, if_pos accepted, if_pos accepted, accepted,
      Refusals.result, accepted]
    cases stopped : (f.refusals id change fact).rebuild with
    | none =>
      rw [stopped, if_pos rfl] at index
      simp [reply, kept, left, same, index]
    | some cause =>
      rw [stopped, if_neg (Option.some_ne_none cause)] at index
      simp [reply, kept, left, same, index]
  -- The write is refused, and that is all.
  · have refused : (f.refusals id change fact).write = some effect.failure := by
      simp [refusals, refuses, refusal]
    have kept := harmless (by simp [refuses])
    simp [Fleet.run, Replica.commit, Attempt.ofStore, Call.perform, mapError_error, handler,
      refuses, Action.aside, Refusals.steps, Refusals.result, refused, reply, kept,
      indexOf_congr members]

/-- The store is asked before the others are told: what becomes of signals is nothing to it. -/
theorem refusals_signalFaults (id : String) (change : Change) (fact : Fact) (f : Fleet)
    (signalFaults : List (Fault Occasion SignalFailure)) :
    { f with signalFaults }.refusals id change fact =
      { f.refusals id change fact with
        publish := ({ f with signalFaults }.refusals id change fact).publish } := by
  simp only [refusals, write_signalFaults, query_signalFaults]

/-- What becomes of the commit of a fact, whatever the store holds, whatever the index lists, and
whichever requests are refused, as long as a refused write changes nothing. Signals that are lost
make no difference to the answer, the store or the index. -/
theorem commit_outcome (serves : f.Serves k) (id : String) {change : Change} {fact : Fact}
    (harmless : (f.write change fact).1 ≠ .ok () →
      (f.write change fact).2.relations = f.relations) :
    let refused := f.refusals id change fact
    let commit := Replica.commit id change fact
    let after := f.run k commit
    steps k commit.run f = refused.steps id change fact f.relations ∧
      after.1 = refused.result ∧
      after.2.relations =
        (if refused.write = none then f.relations.write change fact else f.relations) ∧
      after.2.indexOf k =
        (match refused.result with
          | .ok () => after.2.relations.index
          | .error _ => f.indexOf k) ∧
      ∀ signalFaults,
        let other := { f with signalFaults }.run k commit
        other.1 = after.1 ∧ other.2.relations = after.2.relations ∧
          other.2.indexOf k = after.2.indexOf k := by
  intro refused commit after
  obtain ⟨steps, result, relations, index⟩ := commit_of_refusals serves id harmless
  refine ⟨steps, result, relations, index, fun signalFaults => ?_⟩
  have otherServes : { f with signalFaults }.Serves k := ⟨serves.honest, serves.present⟩
  have otherHarmless : ({ f with signalFaults }.write change fact).1 ≠ .ok () →
      ({ f with signalFaults }.write change fact).2.relations = f.relations := by
    rw [write_signalFaults]
    exact harmless
  have otherwise := commit_of_refusals otherServes id otherHarmless
  rw [refusals_signalFaults] at otherwise
  obtain ⟨-, otherResult, otherRelations, otherIndex⟩ := otherwise
  rw [Refusals.result_publish] at otherResult otherIndex
  have sameRelations := otherRelations.trans relations.symm
  rw [sameRelations] at otherIndex
  exact ⟨otherResult.trans result.symm, sameRelations, otherIndex.trans index.symm⟩

/-- One replica that knows nothing of what is stored; the store does not answer what is assigned,
and signals are lost. -/
def outdated : Fleet :=
  { relations := Relations.empty.write .insert (.assignment ⟨"alice", "viewer", "docs"⟩),
    members := [some ⟨{ id := "a" }, .empty⟩],
    storeFaults :=
      [{ trigger := .ofQuery .allAssignments, effect := ⟨.unavailable "down", false⟩ }],
    signalFaults := [{ trigger := { point := .publish }, effect := .transport "gone" }] }

/-- Bob is stored, but neither he nor Alice is listed. -/
theorem commit_outcome_outdated :
    let commit := Replica.commit "a" .insert (.assignment ⟨"bob", "viewer", "docs"⟩)
    let after := outdated.run 0 commit
    after.1 = .error (.stale (.store (.unavailable "down"))) ∧
      after.2.relations =
        outdated.relations.write .insert (.assignment ⟨"bob", "viewer", "docs"⟩) ∧
      after.2.indexOf 0 = .empty := by
  have serves : outdated.Serves 0 := ⟨rfl, rfl⟩
  have accepted : (outdated.write .insert (.assignment ⟨"bob", "viewer", "docs"⟩)).1 = .ok () :=
    rfl
  obtain ⟨-, result, relations, index, -⟩ :=
    commit_outcome serves "a" fun refused => absurd accepted refused
  exact ⟨result, relations, index⟩

/-! ### Every combination of refusals -/

theorem refusal_write (change : Change) (fact : Fact) (f : Fleet) :
    refusal (f.write change fact).1 =
      (Fault.strike (Occasion.ofWrite change fact).fits f.storeFaults).1.map (·.failure) := by
  simp only [write, strikeStore]
  cases (Fault.strike (Occasion.ofWrite change fact).fits f.storeFaults).1 <;> rfl

theorem refusal_query (pattern : FactPattern) (f : Fleet) :
    refusal (f.query pattern).1 =
      (Fault.strike (Occasion.ofQuery pattern).fits f.storeFaults).1.map (·.failure) := by
  simp only [query, strikeStore]
  cases (Fault.strike (Occasion.ofQuery pattern).fits f.storeFaults).1 <;> rfl

theorem refusal_publish (s : Signal) (f : Fleet) :
    refusal (f.publish s).1 =
      (Fault.strike ({ point := .publish } : Occasion).fits f.signalFaults).1 := by
  simp only [publish, strikeSignal]
  cases (Fault.strike ({ point := .publish } : Occasion).fits f.signalFaults).1 <;> rfl

theorem write_storeFaults (change : Change) (fact : Fact) (f : Fleet) :
    (f.write change fact).2.storeFaults =
      (Fault.strike (Occasion.ofWrite change fact).fits f.storeFaults).2 := by
  simp only [write, strikeStore]
  cases (Fault.strike (Occasion.ofWrite change fact).fits f.storeFaults).1 <;> rfl

theorem query_storeFaults (pattern : FactPattern) (f : Fleet) :
    (f.query pattern).2.storeFaults =
      (Fault.strike (Occasion.ofQuery pattern).fits f.storeFaults).2 := by
  simp only [query, strikeStore]
  cases (Fault.strike (Occasion.ofQuery pattern).fits f.storeFaults).1 <;> rfl

end Fleet

theorem Fault.strike_lasting {τ ε : Type} (fits : τ → Bool) {faults : List (Fault τ ε)}
    (lasting : ∀ g ∈ faults, g.skip = 0 ∧ g.times = none) :
    strike fits faults = ((faults.find? fun g => fits g.trigger).map (·.effect), faults) := by
  induction faults with
  | nil => rfl
  | cons g rest ih =>
    obtain ⟨skip, times⟩ := lasting g List.mem_cons_self
    rw [strike, ih fun h later => lasting h (List.mem_cons_of_mem g later), skip, times]
    cases fit : fits g.trigger <;> simp [fit]

namespace Occasion

theorem fits_self (call : Occasion) : call.fits call = true := by simp [fits, fits.given]

theorem fits_ofQuery_ofWrite (pattern : FactPattern) (change : Change) (fact : Fact) :
    (ofQuery pattern).fits (ofWrite change fact) = false := by
  cases change <;> cases fact <;> rfl

theorem fits_ofWrite_ofQuery (change : Change) (fact : Fact) (pattern : FactPattern) :
    (ofWrite change fact).fits (ofQuery pattern) = false := by
  cases change <;> cases fact <;> rfl

end Occasion

namespace Refusals

variable (refused : Refusals)

/-- Faults that refuse these requests of a commit, each for good and without effect. -/
def storeFaults (change : Change) (fact : Fact) : List (Fault Occasion StoreEffect) :=
  (refused.write.map (lasting (.ofWrite change fact))).toList ++
    (refused.grants.map (lasting (.ofQuery .allGrants))).toList ++
    (refused.assignments.map (lasting (.ofQuery .allAssignments))).toList
where
  lasting (trigger : Occasion) (failure : StoreFailure) : Fault Occasion StoreEffect :=
    { trigger, effect := { failure } }

def signalFaults : List (Fault Occasion SignalFailure) :=
  (refused.publish.map fun effect => { trigger := { point := .publish }, effect }).toList

theorem lasting_of_armed {change : Change} {fact : Fact} {fault : Fault Occasion StoreEffect}
    (armed : fault ∈ refused.storeFaults change fact) :
    fault.skip = 0 ∧ fault.times = none ∧ fault.effect.persists = false := by
  simp only [storeFaults, List.mem_append, Option.mem_toList, Option.map_eq_some_iff] at armed
  rcases armed with (⟨_, _, rfl⟩ | ⟨_, _, rfl⟩) | ⟨_, _, rfl⟩ <;> exact ⟨rfl, rfl, rfl⟩

theorem strike_storeFaults (change : Change) (fact : Fact) (call : Occasion) :
    Fault.strike call.fits (refused.storeFaults change fact) =
      (((refused.storeFaults change fact).find? fun g => call.fits g.trigger).map (·.effect),
        refused.storeFaults change fact) :=
  Fault.strike_lasting _ fun _ armed =>
    have lasts := refused.lasting_of_armed armed
    ⟨lasts.1, lasts.2.1⟩

end Refusals

namespace Fleet

/-- Every combination of refusals comes about, whatever the store holds. -/
theorem exists_refusals_eq (refused : Refusals) (id : String) (change : Change) (fact : Fact)
    (f : Fleet) :
    ∃ storeFaults signalFaults,
      let g := { f with storeFaults, signalFaults }
      g.refusals id change fact = refused ∧
        ((g.write change fact).1 ≠ .ok () → (g.write change fact).2.relations = f.relations) := by
  refine ⟨refused.storeFaults change fact, refused.signalFaults, ?_, fun refuses => ?_⟩
  · simp only [refusals, refusal_write, refusal_query, refusal_publish, write_storeFaults,
      query_storeFaults, write_signalFaults_eq, query_signalFaults_eq,
      Refusals.strike_storeFaults]
    have apart : (Occasion.ofQuery .allGrants).fits (.ofQuery .allAssignments) = false := rfl
    have apart' : (Occasion.ofQuery .allAssignments).fits (.ofQuery .allGrants) = false := rfl
    obtain ⟨write, grants, assignments, publish⟩ := refused
    cases write <;> cases grants <;> cases assignments <;> cases publish <;>
      simp [Refusals.storeFaults, Refusals.storeFaults.lasting, Refusals.signalFaults,
        Occasion.fits_self, Occasion.fits_ofQuery_ofWrite,
        Occasion.fits_ofWrite_ofQuery, Fault.strike, apart, apart']
  · rcases write_cases change fact { f with storeFaults := _, signalFaults := _ } with
      ⟨answered, -⟩ | ⟨effect, ⟨fault, armed, -, rfl⟩, -, relations⟩
    · exact absurd answered refuses
    · rw [relations, (refused.lasting_of_armed armed).2.2]
      rfl

end Fleet

end Entitlement
