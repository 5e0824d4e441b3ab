import Entitlement.Proofs.AllOrNothing
import Entitlement.Proofs.Provenance

/-!
# Batches at the same time

Several replicas assign one role to lists of users, all at the same time. A batch that succeeds has
found each of its users with the role in the index, or has stored the assignment itself. It takes
nothing back. A batch that fails takes back what it has stored, also where another batch has found
it in the index or has stored it a second time. So a batch that succeeds can be undone by one that
fails, and by nothing else.
-/

namespace Entitlement

open Call (Abides)

/-! ### The course of a batch -/

/-- A call deletes only what it has inserted itself. -/
def Compensating (course : List Step) (step : Step) : Prop :=
  ∀ fact, step.written? = some (.delete, fact) → ⟨.write .insert fact, .ok ()⟩ ∈ course

theorem lenient_compensating : Lenient Compensating := by
  rintro course ⟨a, answer⟩ plain fact deletes
  cases a with
  | write => cases plain
  | _ => cases deletes

def Keeping (course : List Step) : Prop :=
  ∀ step ∈ course, ∀ fact, step.written? ≠ some (.delete, fact)

theorem Keeping.append {course steps : List Step} (one : Keeping course) (two : Keeping steps) :
    Keeping (course ++ steps) := by
  intro step member
  rcases List.mem_append.mp member with inOne | inTwo
  · exact one step inOne
  · exact two step inTwo

theorem keeping_of_plain {steps : List Step} (plain : Plain steps) : Keeping steps := by
  rintro ⟨a, answer⟩ member fact deletes
  have quiet := plain _ member
  cases a with
  | write => cases quiet
  | _ => cases deletes

theorem keeping_of_committing {fact : Fact} {steps : List Step} {result : Except Failure Unit}
    (committing : Replica.Committing .insert fact steps result) : Keeping steps := by
  have first (answer : Except StoreFailure Unit) :
      Keeping [(⟨.write .insert fact, answer⟩ : Step)] := by
    intro step member other deletes
    rw [List.mem_singleton.mp member] at deletes
    cases deletes
  cases committing with
  | refused cause => exact first _
  | stale plain cause => exact (first _).append (keeping_of_plain plain)
  | done plain refreshing => exact (first _).append (keeping_of_plain plain)

/-- The course has stored these assignments. -/
def Stored (course : List Step) (made : List Assignment) : Prop :=
  ∀ a ∈ made, ⟨.write .insert (.assignment a), .ok ()⟩ ∈ course

theorem Stored.append {course : List Step} {made : List Assignment} (stored : Stored course made)
    (steps : List Step) : Stored (course ++ steps) made :=
  fun a member => List.mem_append_left steps (stored a member)

/-- The call has found the user with the role, or has stored the assignment. -/
def Provides (role domain : String) (course : List Step) (user : String) : Prop :=
  (∃ index : Index, ⟨.readIndex, index⟩ ∈ course ∧ role ∈ index.rolesOf user domain) ∨
    ⟨.write .insert (.assignment ⟨user, role, domain⟩), .ok ()⟩ ∈ course

theorem Provides.of_prefix {role domain user : String} {course later : List Step}
    (provides : Provides role domain course user) (longer : course <+: later) :
    Provides role domain later user :=
  provides.imp (fun ⟨index, member, held⟩ => ⟨index, longer.subset member, held⟩)
    fun member => longer.subset member

namespace Authority

variable (me : Profile) {role domain : String}

theorem abides_undo {course : List Step} {made : List Assignment} (stored : Stored course made) :
    (undo me made).Abides Compensating (fun _ _ => True) course := by
  induction made generalizing course with
  | nil => trivial
  | cons a rest ih =>
    have mine : ⟨.write .insert (.assignment a), .ok ()⟩ ∈ course := stored a List.mem_cons_self
    refine Abides.bind (Replica.abides_commit lenient_compensating me.id ?_) ?_
    · rintro answer fact ⟨⟩
      exact mine
    · rintro _ result ⟨steps, rfl, -⟩
      have others : Stored (course ++ steps) rest :=
        Stored.append (fun b member => stored b (List.mem_cons_of_mem a member)) steps
      cases result with
      | ok => exact ih others
      | error cause =>
        refine Abides.bind (Call.abides_note lenient_compensating _ _) ?_
        rintro _ _ rfl
        exact ih (others.append _)

/-- A batch that gives up takes back what it has stored. -/
theorem abides_giveUp {course : List Step} {made : List Assignment} (stored : Stored course made)
    (e : Event) (cause : Failure) :
    (do Call.note e; undo me made; Attempt.fail cause : Attempt Unit).run.Abides Compensating
      (fun _ result => ∀ value, result ≠ .ok value) course := by
  refine Attempt.abides_of_call (Call.abides_note lenient_compensating e course) ?_
  rintro _ _ rfl
  refine Attempt.abides_of_call (abides_undo me (stored.append _)) ?_
  exact fun _ _ _ _ => nofun

/-- What a batch that has come so far has done when it succeeds. -/
theorem abides_assignEach (users : List String) {course : List Step} {made : List Assignment}
    (stored : Stored course made) (keeping : Keeping course) :
    (assignEach me role domain users made).run.Abides Compensating
      (fun later result => ∀ value, result = .ok value →
        Keeping later ∧ ∀ user ∈ users, Provides role domain later user) course := by
  induction users generalizing made course with
  | nil =>
    refine Abides.bind (Call.abides_note lenient_compensating _ course) ?_
    rintro _ value rfl _ -
    exact ⟨keeping.append (keeping_of_plain (by simp [Plain, Action.writes])), by simp⟩
  | cons user rest ih =>
    -- What the rest of the batch adds does not take away what was done for the user.
    have goesOn {course : List Step} {made : List Assignment} (stored : Stored course made)
        (keeping : Keeping course) (provides : Provides role domain course user) :
        (assignEach me role domain rest made).run.Abides Compensating
          (fun later result => ∀ value, result = .ok value →
            Keeping later ∧ ∀ u ∈ user :: rest, Provides role domain later u) course := by
      refine (ih stored keeping).grown.imp ?_
      rintro later result ⟨longer, holds⟩ value succeeds
      obtain ⟨kept, others⟩ := holds value succeeds
      exact ⟨kept, List.forall_mem_cons.mpr ⟨provides.of_prefix longer, others⟩⟩
    refine Attempt.abides_of_call (Call.abides_look lenient_compensating _ course) ?_
    rintro _ held ⟨index, rfl, rfl⟩
    have looking : Keeping (course ++ [⟨.readIndex, index⟩]) :=
      keeping.append (keeping_of_plain (by simp [Plain, Action.writes]))
    split
    · next found =>
      exact goesOn (stored.append _) looking (.inl ⟨index, by simp, found⟩)
    · have inserts (answer : Except StoreFailure Unit) :
          Compensating (course ++ [⟨.readIndex, index⟩])
            ⟨.write .insert (.assignment ⟨user, role, domain⟩), answer⟩ := by
        rintro _ ⟨⟩
      refine Attempt.abides_of_outcome (Replica.abides_commit lenient_compensating me.id inserts) ?_
      rintro _ result ⟨steps, rfl, committing⟩
      have kept := looking.append (keeping_of_committing committing)
      cases committing with
      | done plain refreshing =>
        refine goesOn ?_ kept (.inr (by simp))
        refine List.forall_mem_cons.mpr ⟨by simp, (stored.append _).append _⟩
      | stale plain cause =>
        refine (abides_giveUp me ?_ _ _).imp fun _ _ fails value succeeds =>
          absurd succeeds (fails value)
        have persisted : (Failure.stale cause).writePersisted = true := rfl
        rw [if_pos persisted]
        exact List.forall_mem_cons.mpr ⟨by simp, (stored.append _).append _⟩
      | refused cause =>
        refine (abides_giveUp me ?_ _ _).imp fun _ _ fails value succeeds =>
          absurd succeeds (fails value)
        have unchanged : (Failure.store cause).writePersisted ≠ true := Bool.false_ne_true
        rw [if_neg unchanged]
        exact (stored.append _).append _

/-- A batch that succeeds has deleted nothing and provides the role to each of its users. -/
theorem abides_assignAll (users : List String) :
    (assignAll me users role domain).run.Abides Compensating
      (fun course result => ∀ value, result = .ok value →
        Keeping course ∧ ∀ user ∈ users, user ≠ "" ∧ Provides role domain course user) [] := by
  refine Attempt.abides_of_check (fun _ passed => ?_) nofun
  have nothing : Stored [] [] := List.forall_mem_nil _
  have unstarted : Keeping [] := List.forall_mem_nil _
  refine (abides_assignEach me users nothing unstarted).imp ?_
  intro course result holds value succeeds
  obtain ⟨keeping, provided⟩ := holds value succeeds
  rw [checkedUsers_eq] at passed
  refine ⟨keeping, fun user member => ⟨?_, provided user member⟩⟩
  exact named_of_check passed user member

end Authority

/-- The errand of a batch. -/
def batch (role domain : String) (users : List String) : Origin :=
  .asked (.request (.assignAll users role domain))

theorem abides_batch (role domain : String) (users : List String) (me : Profile) :
    ((batch role domain users).call me).Abides Compensating
      (fun course outcome => ∀ response, outcome = .served (.ok response) →
        Keeping course ∧ ∀ user ∈ users, user ≠ "" ∧ Provides role domain course user) [] := by
  refine (Origin.abides_of_request rfl (Authority.abides_assignAll me users)).imp ?_
  intro course outcome holds response served
  obtain ⟨_, done, -⟩ := holds response served
  exact done

namespace Traffic

variable {start t : Traffic} {turns : List Turn}

/-- What an index lists that a call sees was stored at some moment, if the first indexes list what
is stored. -/
theorem Opening.exists_stored_of_look (opening : start.Opening)
    (played : start.play turns = some t)
    (current : ∀ k, start.fleet.indexOf k = .empty ∨ start.fleet.Current k) {m n k : Nat}
    {index : Index} {a : Assignment}
    (found : (start.chronicle turns)[m]? = some (.acted n k ⟨.readIndex, index⟩))
    (listed : a ∈ index.assignments) :
    ∃ i ≤ turns.length, start.StoredAt turns i (.assignment a) := by
  obtain ⟨u, w, before, after, reached, -, happens⟩ :=
    happens_of_chronicle opening.obedient played found
  rw [happens.answer_of_read] at listed
  have inside : m < turns.length := by
    rw [← length_chronicle opening.obedient played]
    exact (List.getElem?_eq_some_iff.mp found).1
  obtain ⟨stands, sourced⟩ := opening.sourced reached
  rcases sourced.serving k with ⟨-, first⟩ | ⟨j, l, swapped, -⟩
  · rw [first] at listed
    rcases current k with empty | current
    · rw [empty] at listed
      cases listed
    · rw [current] at listed
      exact ⟨0, Nat.zero_le _, start, rfl, listed⟩
  · obtain ⟨b, c, built, -⟩ := sourced.swapped j l k _ swapped
    obtain ⟨x, y, -, atSecond, index⟩ := opening.contents_of_built reached built
    obtain ⟨_, _, -, second, -⟩ := built.answers
    have earlier : c < (turns.take m).length := by
      rw [← length_chronicle opening.obedient reached]
      exact (List.getElem?_eq_some_iff.mp second).1
    rw [List.length_take] at earlier
    rw [List.take_take, min_eq_left (by omega)] at atSecond
    rw [index] at listed
    exact ⟨c, by omega, y, atSecond, listed⟩

theorem current_gathered {capacity : Nat} {relations : Relations} {replicas : List Member}
    {storeFaults : List (Fault Occasion StoreEffect)}
    {signalFaults : List (Fault Occasion SignalFailure)}
    (current : ∀ m ∈ replicas, m.index = relations.index) (k : Nat) :
    let start := gathered capacity relations replicas storeFaults signalFaults
    start.fleet.indexOf k = .empty ∨ start.fleet.Current k := by
  intro start
  cases found : replicas[k]? with
  | none =>
    left
    simp [start, gathered, Fleet.indexOf, Fleet.member?, found]
  | some m =>
    right
    have listed := current m (List.mem_of_getElem? found)
    simp [start, gathered, Fleet.Current, Fleet.indexOf, Fleet.member?, found, listed]

/-- A user whom a batch provides with the role has held it at some moment. -/
theorem Opening.exists_stored_of_provides (opening : start.Opening)
    (played : start.play turns = some t)
    (current : ∀ k, start.fleet.indexOf k = .empty ∨ start.fleet.Current k) {n k : Nat}
    {origin : Origin} {role domain user : String}
    (begun : .began n k origin ∈ start.chronicle turns) (named : user ≠ "")
    (provides : Provides role domain (courseOf n (start.chronicle turns)) user) :
    ∃ i ≤ turns.length, start.StoredAt turns i (.assignment ⟨user, role, domain⟩) := by
  have recorded := opening.recorded played
  rcases provides with ⟨index, looking, held⟩ | making
  · obtain ⟨i, found⟩ := recorded.exists_entry begun looking
    exact opening.exists_stored_of_look played current found ((Index.mem_rolesOf named).mp held)
  · obtain ⟨i, found⟩ := recorded.exists_entry begun making
    have inside := (List.getElem?_eq_some_iff.mp found).1
    rw [length_chronicle opening.obedient played] at inside
    exact ⟨i + 1, inside, (opening.storedAt_of_accepted played found).mpr rfl⟩

/-! ### Main results -/

/-- Whatever is written is written by a batch of the role and the domain. -/
def OnlyBatches (role domain : String) (past : List Happening) : Prop :=
  ∀ n k step, .acted n k step ∈ past → step.written? ≠ none →
    ∃ users, .began n k (batch role domain users) ∈ past

/-- The call has stored the fact, and later a deletion of it by the same call has taken effect. -/
def TakenBack (start : Traffic) (turns : List Turn) (n : Nat) (fact : Fact) : Prop :=
  ∃ (k i d : Nat) (answer : Except StoreFailure Unit), i < d ∧
    (start.chronicle turns)[i]? = some (.acted n k ⟨.write .insert fact, .ok ()⟩) ∧
    (start.chronicle turns)[d]? = some (.acted n k ⟨.write .delete fact, answer⟩) ∧
    ¬ start.StoredAt turns (d + 1) fact

def Succeeded (t : Traffic) (n : Nat) : Prop :=
  ∃ response, t.outcomeOf? n = some (.served (.ok response))

/-- A batch deletes only what it has stored, and only if it does not succeed. -/
theorem Opening.takenBack_of_delete (opening : start.Opening) (played : start.play turns = some t)
    {role domain : String} (batches : OnlyBatches role domain (start.chronicle turns)) {d : Nat}
    {h : Happening} {fact : Fact} (found : (start.chronicle turns)[d]? = some h)
    (deletes : h.written? = some (.delete, fact)) (gone : ¬ start.StoredAt turns (d + 1) fact) :
    ∃ n, start.TakenBack turns n fact ∧ ¬ t.Succeeded n ∧
      ¬ Keeping (courseOf n (start.chronicle turns)) := by
  have recorded := opening.recorded played
  obtain ⟨n, k, answer, rfl⟩ := Happening.exists_of_written? deletes
  have member := List.mem_of_getElem? found
  obtain ⟨users, begun⟩ := batches n k _ member nofun
  have deleting : ¬ Keeping (courseOf n (start.chronicle turns)) := fun keeping =>
    keeping _ (mem_courseOf.mpr ⟨k, member⟩) fact rfl
  have compensates := opening.allowed played begun (abides_batch role domain users) found
  obtain ⟨i, before, stored⟩ := recorded.exists_moment begun (compensates fact rfl)
  refine ⟨n, ⟨k, i, d, answer, before, stored, found, gone⟩, ?_, deleting⟩
  rintro ⟨response, succeeded⟩
  exact deleting (recorded.ends begun (abides_batch role domain users) succeeded response rfl).1

section Results

variable {capacity : Nat} {relations : Relations} {replicas : List Member}
  {storeFaults : List (Fault Occasion StoreEffect)}
  {signalFaults : List (Fault Occasion SignalFailure)}

/-- Any number of batches of one role and domain at the same time, on replicas whose indexes are
current in the beginning, whatever fails. Each user of a batch that has succeeded holds the role,
unless another batch, which has not succeeded, has stored that assignment as well and has taken it
back. -/
theorem holds_or_takenBack (current : ∀ m ∈ replicas, m.index = relations.index)
    (played : (gathered capacity relations replicas storeFaults signalFaults).play turns = some t)
    {role domain user : String} {users : List String} {n k : Nat}
    (batches : OnlyBatches role domain
      ((gathered capacity relations replicas storeFaults signalFaults).chronicle turns))
    (begun : .began n k (batch role domain users) ∈
      (gathered capacity relations replicas storeFaults signalFaults).chronicle turns)
    (succeeded : t.Succeeded n) (member : user ∈ users) :
    let start := gathered capacity relations replicas storeFaults signalFaults
    t.fleet.relations.Holds (.assignment ⟨user, role, domain⟩) ∨
      ∃ m, m ≠ n ∧ ¬ t.Succeeded m ∧
        start.TakenBack turns m (.assignment ⟨user, role, domain⟩) := by
  intro start
  let past := start.chronicle turns
  have opening : start.Opening := opening_gathered
  have recorded := opening.recorded played
  obtain ⟨response, ended⟩ := succeeded
  obtain ⟨keeping, provided⟩ :=
    recorded.ends begun (abides_batch role domain users) ended response rfl
  obtain ⟨named, provides⟩ := provided user member
  obtain ⟨i, inside, stored⟩ :=
    opening.exists_stored_of_provides played (current_gathered current) begun named provides
  refine or_iff_not_imp_right.mpr fun kept => ?_
  have last : start.play (turns.take turns.length) = some t := by rwa [List.take_length]
  rw [← storedAt_iff last]
  refine (storedAt_of_span opening.obedient played inside ?_ (iff_of_true stored rfl)).mpr rfl
  -- Nobody has deleted it, since a deletion takes an assignment back.
  intro d h change _ _ found writes takesEffect
  cases change with
  | insert => rfl
  | delete =>
    have gone : ¬ start.StoredAt turns (d + 1) (.assignment ⟨user, role, domain⟩) := by
      rw [takesEffect]
      nofun
    obtain ⟨m, takenBack, failed, deleting⟩ :=
      opening.takenBack_of_delete played batches found writes gone
    refine absurd ⟨m, ?_, failed, takenBack⟩ kept
    rintro rfl
    exact deleting keeping

end Results

/-- Two replicas over an empty store that refuses Bob. -/
def refusingBob : Traffic :=
  gathered 1 .empty (pair .empty)
    [Authority.refusing { point := .insert, user := some "bob" } false]

/-- Replica `a` looks whether Alice has the role. Then a batch of `b` assigns it to her and
succeeds. The batch of `a` stores the same assignment, fails with Bob and takes the role from
Alice. -/
def undoneBatch : List Turn :=
  [.begins 0 (.request (.assignAll ["alice", "bob"] "viewer" "docs")), .goes 0] ++
  [.begins 1 (.request (.assignAll ["alice"] "viewer" "docs"))] ++ List.replicate 12 (.goes 1) ++
  List.replicate 23 (.goes 0)

/-- Of the two calls, number 0 acts for replica 0 and number 1 for replica 1. -/
def actsForItsReplica : Happening → Bool
  | .began .. => true
  | .acted n k _ => decide (n = 0 ∧ k = 0 ∨ n = 1 ∧ k = 1)

theorem holds_or_takenBack_alice :
    ∃ t, refusingBob.play undoneBatch = some t ∧
      ∃ m, m ≠ 1 ∧ ¬ t.Succeeded m ∧
        refusingBob.TakenBack undoneBatch m (.assignment ⟨"alice", "viewer", "docs"⟩) := by
  have course : (refusingBob.play undoneBatch).any (fun t =>
      decide (t.outcomeOf? 1 = some (.served (.ok .done)) ∧
        ¬ t.fleet.relations.Holds (.assignment ⟨"alice", "viewer", "docs"⟩))) = true := by
    decide +kernel
  obtain ⟨t, played, fits⟩ := (Option.any_eq_true _ _).mp course
  obtain ⟨succeeded, lost⟩ := of_decide_eq_true fits
  have first : .began 0 0 (batch "viewer" "docs" ["alice", "bob"]) ∈
      refusingBob.chronicle undoneBatch := by decide +kernel
  have second : .began 1 1 (batch "viewer" "docs" ["alice"]) ∈
      refusingBob.chronicle undoneBatch := by decide +kernel
  have callers : (refusingBob.chronicle undoneBatch).all actsForItsReplica = true := by
    decide +kernel
  have batches : OnlyBatches "viewer" "docs" (refusingBob.chronicle undoneBatch) := by
    intro n k step member _
    obtain ⟨rfl, rfl⟩ | ⟨rfl, rfl⟩ := of_decide_eq_true (List.all_eq_true.mp callers _ member)
    · exact ⟨_, first⟩
    · exact ⟨_, second⟩
  have current : ∀ m ∈ pair .empty, m.index = Relations.empty.index := by decide
  refine ⟨t, played, ?_⟩
  exact (holds_or_takenBack current played batches second ⟨_, succeeded⟩
    List.mem_cons_self).resolve_left lost

/-- The second batch has succeeded, both are done, and Alice does not hold the role. -/
theorem not_holds_of_succeeded :
    ∃ t, refusingBob.play undoneBatch = some t ∧ t.AtRest ∧
      t.outcomeOf? 0 = some (.served (.error (.store (.unavailable "down")))) ∧
      t.outcomeOf? 1 = some (.served (.ok .done)) ∧
      ¬ t.fleet.relations.Holds (.assignment ⟨"alice", "viewer", "docs"⟩) := by
  have course : (refusingBob.play undoneBatch).any (fun t =>
      decide (t.AtRest ∧
        t.outcomeOf? 0 = some (.served (.error (.store (.unavailable "down")))) ∧
        t.outcomeOf? 1 = some (.served (.ok .done)) ∧
        ¬ t.fleet.relations.Holds (.assignment ⟨"alice", "viewer", "docs"⟩))) = true := by
    decide +kernel
  obtain ⟨t, played, fits⟩ := (Option.any_eq_true _ _).mp course
  exact ⟨t, played, of_decide_eq_true fits⟩

end Traffic

end Entitlement
