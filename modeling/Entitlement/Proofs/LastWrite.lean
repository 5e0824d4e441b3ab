import Entitlement.Proofs.Action
import Entitlement.Proofs.Mirror
import Entitlement.Proofs.Storage
import Mathlib.Data.Finset.Card
import Mathlib.Logic.Function.Basic

/-!
# Clones of a store

Clones of a store share one content and call it in turns, each its own calls in their order. To the
store this is one sequence of calls. The store in memory holds, at every moment, the facts whose
last write so far was an insertion: which clone wrote it, and what was written besides, does not
matter.
-/

namespace Entitlement

variable {σ : Type}

/-- A call that was made, with the clone that made it and the answer. -/
structure Exchange where
  clone : Nat
  call : StoreCall
  answer : StoreAnswer
deriving DecidableEq, Repr

namespace Store

/-- The clones share the content `s`, and each has calls to make. The schedule says whose turn it
is; the turn of a clone that has made all its calls passes. -/
def interleave (store : Store σ) : List Nat → (Nat → List StoreCall) → σ → List Exchange × σ
  | [], _, s => ([], s)
  | clone :: schedule, waiting, s =>
    match waiting clone with
    | [] => interleave store schedule waiting s
    | call :: rest =>
      let (answer, later) := store call s
      let (exchanges, last) :=
        interleave store schedule (Function.update waiting clone rest) later
      (⟨clone, call, answer⟩ :: exchanges, last)

/-! ### One sequence of calls -/

variable (store : Store σ)

/-- To the store it is as if one holder had made all the calls. -/
theorem serve_interleave (schedule : List Nat) (waiting : Nat → List StoreCall) (s : σ) :
    store.serve ((store.interleave schedule waiting s).1.map Exchange.call) s =
      ((store.interleave schedule waiting s).1.map Exchange.answer,
        (store.interleave schedule waiting s).2) := by
  induction schedule generalizing waiting s with
  | nil => rfl
  | cons clone schedule ih =>
    rw [interleave]
    split
    · exact ih waiting s
    · next call rest _ =>
      have later := ih (Function.update waiting clone rest) (store call s).2
      simp only [List.map_cons, serve, later]

/-- Every clone makes its own calls in their order. -/
theorem calls_of_clone (clone : Nat) (schedule : List Nat) (waiting : Nat → List StoreCall)
    (s : σ) :
    ((store.interleave schedule waiting s).1.filter (·.clone = clone)).map Exchange.call <+:
      waiting clone := by
  induction schedule generalizing waiting s with
  | nil => exact List.nil_prefix
  | cons turn schedule ih =>
    rw [interleave]
    split
    · exact ih waiting s
    · next call rest next =>
      have later := ih (Function.update waiting turn rest) (store call s).2
      by_cases own : turn = clone
      · subst own
        rw [Function.update_self] at later
        rw [next]
        simpa using later
      · rw [Function.update_of_ne (Ne.symm own)] at later
        simpa [own] using later

variable {store}

theorem serve_of_interleave {schedule : List Nat} {waiting : Nat → List StoreCall} {s last : σ}
    {exchanges : List Exchange} (ran : store.interleave schedule waiting s = (exchanges, last)) :
    store.serve (exchanges.map Exchange.call) s = (exchanges.map Exchange.answer, last) := by
  have served := serve_interleave store schedule waiting s
  rwa [ran] at served

/-- Each answer is that of the store after the calls before it. -/
theorem answer_of_serve {before after : List Exchange} {exchange : Exchange} {s last : σ}
    (served : store.serve ((before ++ exchange :: after).map Exchange.call) s =
      ((before ++ exchange :: after).map Exchange.answer, last)) :
    exchange.answer =
      (store exchange.call (store.serve (before.map Exchange.call) s).2).1 := by
  induction before generalizing s with
  | nil =>
    simp only [List.nil_append, List.map_cons, serve, Prod.mk.injEq, List.cons.injEq] at served
    exact served.1.1.symm
  | cons first rest ih =>
    simp only [List.cons_append, List.map_cons, serve, Prod.mk.injEq, List.cons.injEq] at served
    exact ih (Prod.ext served.1.2 served.2)

end Store

/-! ### The last write -/

namespace StoreCall

def changeOf? (fact : Fact) : StoreCall → Option Change
  | write change about => if about = fact then some change else none
  | query _ => none

/-- What the last of the calls that wrote the fact did to it. -/
def lastChange? (fact : Fact) (calls : List StoreCall) : Option Change :=
  (calls.filterMap (changeOf? fact)).getLast?

theorem lastChange?_cons (fact : Fact) (call : StoreCall) (rest : List StoreCall) :
    lastChange? fact (call :: rest) = (lastChange? fact rest).or (call.changeOf? fact) := by
  cases told : call.changeOf? fact <;>
    simp [lastChange?, told, List.getLast?_cons]

end StoreCall

open StoreCall (lastChange?)

namespace Relations

variable {r : Relations} {fact other : Fact}

theorem write_comm (apart : fact ≠ other) (r : Relations) (change otherChange : Change) :
    (r.write change fact).write otherChange other =
      (r.write otherChange other).write change fact := by
  refine ext_holds fun asked => ?_
  by_cases first : asked = fact
  · subst first
    rw [holds_write_of_ne apart, holds_write_self, holds_write_self]
  · by_cases second : asked = other
    · subst second
      rw [holds_write_self, holds_write_of_ne first, holds_write_self]
    · simp only [holds_write_of_ne first, holds_write_of_ne second]

/-- The size counts the stored facts of both relations. -/
theorem exists_stored (r : Relations) :
    ∃ stored : Finset Fact, r.size = stored.card ∧ ∀ fact, fact ∈ stored ↔ r.Holds fact := by
  let facts := r.grants.toList.map Fact.grant ++ r.assignments.toList.map Fact.assignment
  have apart : facts.Nodup := by
    refine List.nodup_append.mpr ⟨?_, ?_, ?_⟩
    · exact r.grants.nodup.map fun _ _ => Fact.grant.inj
    · exact r.assignments.nodup.map fun _ _ => Fact.assignment.inj
    · simp
  refine ⟨facts.toFinset, ?_, fun fact => ?_⟩
  · rw [List.toFinset_card_of_nodup apart]
    simp [facts, size, SortedBy.size]
  · cases fact <;> simp [facts, Holds, SortedBy.mem_iff]

theorem holds_memory {call : StoreCall} :
    (Store.memory call r).2.Holds fact ↔
      (call.changeOf? fact).elim (r.Holds fact) (· = .insert) := by
  cases call with
  | query pattern => rfl
  | write change about =>
    by_cases same : about = fact
    · subst same
      simp [StoreCall.changeOf?, Store.memory, holds_write_self]
    · simp [StoreCall.changeOf?, Store.memory, same, holds_write_of_ne (Ne.symm same)]

/-- By induction on the calls: a fact that none of them writes stays as it was. -/
theorem holds_serve {calls : List StoreCall} :
    (Store.memory.serve calls r).2.Holds fact ↔
      (lastChange? fact calls).elim (r.Holds fact) (· = .insert) := by
  induction calls generalizing r with
  | nil => rfl
  | cons call rest ih =>
    rw [Store.serve, ih, StoreCall.lastChange?_cons]
    cases lastChange? fact rest with
    | some change => rfl
    | none => exact holds_memory

theorem holds_serve_empty {calls : List StoreCall} :
    (Store.memory.serve calls empty).2.Holds fact ↔ lastChange? fact calls = some .insert := by
  rw [holds_serve]
  cases lastChange? fact calls <;> simp

/-- After the turns of its clones, a store that was empty holds what was inserted last. -/
theorem holds_of_interleave {schedule : List Nat} {waiting : Nat → List StoreCall}
    {exchanges : List Exchange} {content : Relations}
    (ran : Store.memory.interleave schedule waiting .empty = (exchanges, content)) :
    content.Holds fact ↔ lastChange? fact (exchanges.map Exchange.call) = some .insert := by
  rw [← holds_serve_empty, Store.serve_of_interleave ran]

end Relations

/-! ### What a pattern admits -/

/-- The fact is of the pattern's relation and has the value of every field that is given. -/
def FactPattern.Admits (pattern : FactPattern) (fact : Fact) : Prop :=
  pattern.table = fact.table ∧
    List.Forall₂ (fun wanted value => ∀ text, wanted = some text → value = text)
      pattern.row fact.row

theorem agrees_iff {wanted : Option String} {value : String} :
    agrees wanted value = true ↔ ∀ text, wanted = some text → value = text := by
  cases wanted with
  | none => simp
  | some text => simpa using eq_comm

theorem FactPattern.selects_iff {pattern : FactPattern} {fact : Fact} :
    pattern.selects fact = true ↔ pattern.Admits fact := by
  cases pattern <;> cases fact <;>
    simp [selects, Admits, FactPattern.table, Fact.table, FactPattern.row, Fact.row, Grant.key,
      Assignment.key, GrantPattern.selects, AssignmentPattern.selects, agrees_iff, and_assoc]

/-! ### Main result -/

namespace Store

/-- The answer to the query after the calls: the facts that the pattern admits and that the calls
inserted last, in strictly ascending order. -/
def Lists (calls : List StoreCall) (pattern : FactPattern) (answer : StoreAnswer) : Prop :=
  ∃ facts, answer = .found facts ∧ (facts.map Fact.row).Pairwise (· < ·) ∧ facts.Nodup ∧
    ∀ fact, fact ∈ facts ↔ pattern.Admits fact ∧ lastChange? fact calls = some .insert

theorem lists_memory {calls : List StoreCall} {r : Relations}
    (holds_iff : ∀ fact, r.Holds fact ↔ lastChange? fact calls = some .insert)
    (pattern : FactPattern) : Lists calls pattern (memory (.query pattern) r).1 := by
  refine ⟨_, rfl, Relations.query_ascending pattern r, Relations.query_nodup pattern r, ?_⟩
  intro fact
  rw [Relations.mem_query, FactPattern.selects_iff, holds_iff]

/-- However clones of an empty store in memory are scheduled: every clone's calls are made in its
order. Each query, of whichever clone, is answered with the facts that it admits and whose last
write before it was an insertion, in strictly ascending order, and so would be one that is made at
the end. The size is the number of facts whose last write was an insertion. Schedules that agree on
the last write of every fact end with the same content, and writes of different facts can change
places. -/
theorem last_write_wins {schedule : List Nat} {waiting : Nat → List StoreCall}
    {exchanges : List Exchange} {content : Relations}
    (ran : memory.interleave schedule waiting .empty = (exchanges, content)) :
    (∀ clone, (exchanges.filter (·.clone = clone)).map Exchange.call <+: waiting clone) ∧
    (∀ before exchange after pattern, exchanges = before ++ exchange :: after →
      exchange.call = .query pattern →
      Lists (before.map Exchange.call) pattern exchange.answer) ∧
    (∀ pattern, Lists (exchanges.map Exchange.call) pattern (memory (.query pattern) content).1) ∧
    (∃ stored : Finset Fact, content.size = stored.card ∧ ∀ fact, fact ∈ stored ↔
      lastChange? fact (exchanges.map Exchange.call) = some .insert) ∧
    (∀ otherSchedule otherWaiting otherExchanges otherContent,
      memory.interleave otherSchedule otherWaiting .empty = (otherExchanges, otherContent) →
      (∀ fact, lastChange? fact (otherExchanges.map Exchange.call) =
        lastChange? fact (exchanges.map Exchange.call)) →
      otherContent = content) ∧
    ∀ fact other, fact ≠ other → ∀ change otherChange,
      (content.write change fact).write otherChange other =
        (content.write otherChange other).write change fact := by
  have served := serve_of_interleave ran
  have holds_iff (fact : Fact) : content.Holds fact ↔ _ := Relations.holds_of_interleave ran
  refine ⟨fun clone => ?_, ?_, lists_memory holds_iff, ?_, ?_, ?_⟩
  · have inOrder := calls_of_clone memory clone schedule waiting Relations.empty
    rwa [ran] at inOrder
  · rintro before exchange after pattern rfl asked
    rw [answer_of_serve served, asked]
    exact lists_memory (fun _ => Relations.holds_serve_empty) pattern
  · obtain ⟨stored, counted, member_iff⟩ := content.exists_stored
    exact ⟨stored, counted, fun fact => (member_iff fact).trans (holds_iff fact)⟩
  · intro otherSchedule otherWaiting otherExchanges otherContent otherRan agree
    refine Relations.ext_holds fun fact => ?_
    rw [Relations.holds_of_interleave otherRan, agree, holds_iff]
  · exact fun fact other apart => content.write_comm apart

/-- Two clones insert the same assignment, and the first one deletes it. The second one finds it
before the deletion and not after it, although its own write was an insertion. -/
theorem last_write_wins_crossed :
    let held : Fact := .assignment ⟨"alice", "reader", "docs"⟩
    let waiting : Nat → List StoreCall := fun clone =>
      if clone = 0 then [.write .insert held, .write .delete held]
      else [.write .insert held, .query .allAssignments, .query .allAssignments]
    let run := memory.interleave [0, 1, 1, 0, 1] waiting .empty
    run.1.map Exchange.answer = [.wrote, .wrote, .found [held], .wrote, .found []] ∧
      Lists (run.1.map Exchange.call) .allAssignments (.found []) ∧ run.2.size = 0 := by
  intro held waiting run
  have ran : memory.interleave [0, 1, 1, 0, 1] waiting .empty = (run.1, run.2) := rfl
  obtain ⟨-, -, told, -⟩ := last_write_wins ran
  have answer : (memory (.query .allAssignments) run.2).1 = .found [] := by decide +kernel
  refine ⟨by decide +kernel, ?_, by decide +kernel⟩
  exact answer ▸ told .allAssignments

end Store

end Entitlement
