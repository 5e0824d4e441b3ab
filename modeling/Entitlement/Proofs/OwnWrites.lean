import Entitlement.Proofs.Provenance

/-!
# A replica sees its own writes

A call that reports success has swapped an index in after each of its writes, and that index was
queried for after the write. Later indexes are queried for later still. So whatever else goes on at
the same time, from then on the replica serves what the call has written, until somebody writes
otherwise.
-/

namespace Entitlement

/-! ### Being behind -/

/-- Whether the call is behind with its index after a step, when it was `late` before. -/
def Step.behind (late : Bool) : Step → Bool
  | ⟨.write .., .ok _⟩ => true
  | ⟨.swapIndex _, _⟩ => false
  | _ => late

/-- The call has written something and has not swapped an index in since. -/
def behind (course : List Step) : Bool := course.foldl Step.behind false

theorem Step.behind_of_plain {late : Bool} {step : Step} (plain : step.1.writes = false) :
    step.behind late = false ∨ step.behind late = late := by
  obtain ⟨a, answer⟩ := step
  cases a with
  | write => cases plain
  | swapIndex => exact .inl rfl
  | _ => exact .inr rfl

theorem foldl_behind_of_plain {steps : List Step} (plain : Plain steps) :
    steps.foldl Step.behind false = false := by
  induction steps with
  | nil => rfl
  | cons step rest ih =>
    have first : step.behind false = false :=
      (Step.behind_of_plain (plain step List.mem_cons_self)).elim id id
    rw [List.foldl_cons, first]
    exact ih fun other member => plain other (List.mem_cons_of_mem _ member)

theorem behind_append_plain {course steps : List Step} (fresh : behind course = false)
    (plain : Plain steps) : behind (course ++ steps) = false := by
  rw [behind, List.foldl_append]
  exact (congrArg (fun late => steps.foldl Step.behind late) fresh).trans
    (foldl_behind_of_plain plain)

theorem behind_append_refreshing {course steps : List Step} (plain : Plain steps)
    (refreshing : Refreshing steps) : behind (course ++ steps) = false := by
  obtain ⟨index, member⟩ := refreshing
  obtain ⟨before, after, rfl⟩ := List.append_of_mem member
  rw [behind, ← List.append_assoc, List.foldl_append, List.foldl_cons]
  exact foldl_behind_of_plain fun step inside =>
    plain step (List.mem_append_right before (List.mem_cons_of_mem _ inside))

/-- Whoever is not behind has swapped an index in after each accepted write. -/
theorem refreshing_of_not_behind {before after : List Step} {change : Change} {fact : Fact}
    (fresh : behind (before ++ ⟨.write change fact, .ok ()⟩ :: after) = false) :
    Refreshing after := by
  rw [behind, List.foldl_append, List.foldl_cons] at fresh
  replace fresh : after.foldl Step.behind true = false := fresh
  induction after with
  | nil => cases fresh
  | cons step rest ih =>
    rw [List.foldl_cons] at fresh
    obtain ⟨a, answer⟩ := step
    cases a with
    | swapIndex index => exact ⟨index, List.mem_cons_self⟩
    | write change fact =>
      obtain ⟨index, member⟩ := ih (by cases answer <;> exact fresh)
      exact ⟨index, List.mem_cons_of_mem _ member⟩
    | _ =>
      obtain ⟨index, member⟩ := ih fresh
      exact ⟨index, List.mem_cons_of_mem _ member⟩

/-! ### Calls that catch up -/

namespace Call

variable {α : Type}

theorem abides_anything (call : Call α) (course : List Step) :
    call.Abides Anything (fun _ _ => True) course := by
  induction call generalizing course with
  | done value => trivial
  | act a next ih => exact fun answer => ⟨trivial, ih answer _⟩

end Call

namespace Attempt

open Call (Abides)

variable {α β : Type}

/-- An attempt that begins when its call is not behind is not behind when it succeeds. -/
def CatchesUp (attempt : Attempt α) : Prop :=
  ∀ course, behind course = false → attempt.run.Abides Anything
    (fun later result => (∃ value, result = .ok value) → behind later = false) course

/-- The attempt never succeeds. -/
def Fails (attempt : Attempt α) : Prop :=
  ∀ course, attempt.run.Abides Anything (fun _ result => ∀ value, result ≠ .ok value) course

theorem fails_fail (cause : Failure) : (fail cause : Attempt α).Fails := nofun

theorem Fails.after {first : Attempt α} {next : α → Attempt β}
    (fails : ∀ value, (next value).Fails) : (first >>= next).Fails := by
  intro course
  refine Abides.bind (Call.abides_anything first.run course) ?_
  rintro later result -
  cases result with
  | ok value => exact fails value later
  | error cause => nofun

theorem catchesUp_done (result : Except Failure α) : CatchesUp ⟨.done result⟩ :=
  fun _ fresh _ => fresh

theorem CatchesUp.bind {first : Attempt α} {next : α → Attempt β} (one : first.CatchesUp)
    (two : ∀ value, (next value).CatchesUp) : (first >>= next).CatchesUp := by
  intro course fresh
  refine Abides.bind (one course fresh) ?_
  intro later result caughtUp
  cases result with
  | ok value => exact two value later (caughtUp ⟨value, rfl⟩)
  | error cause => rintro ⟨value, ⟨⟩⟩

theorem CatchesUp.map {attempt : Attempt α} (catchesUp : attempt.CatchesUp) (wrap : α → β) :
    (wrap <$> attempt).CatchesUp :=
  catchesUp.bind fun _ => catchesUp_done _

/-- Whatever succeeds only if the attempt does. -/
theorem CatchesUp.handled {attempt : Attempt α} {next : Except Failure α → Attempt β}
    (one : attempt.CatchesUp) (success : ∀ value, (next (.ok value)).CatchesUp)
    (failure : ∀ cause, (next (.error cause)).Fails) :
    (attempt.outcome >>= next).CatchesUp := by
  intro course fresh
  refine abides_of_outcome (one course fresh) ?_
  intro later result caughtUp
  cases result with
  | ok value => exact success value later (caughtUp ⟨value, rfl⟩)
  | error cause =>
    refine (failure cause later).imp ?_
    rintro end_ result never ⟨value, succeeds⟩
    exact absurd succeeds (never value)

theorem catchesUp_look (question : Index → α) :
    CatchesUp (liftM (Call.look question) : Attempt α) := by
  intro course fresh
  refine Abides.bind (Call.abides_look lenient_anything question course) ?_
  rintro later value ⟨index, rfl, -⟩ -
  exact behind_append_plain fresh (by simp [Plain, Action.writes])

theorem catchesUp_note (e : Event) : CatchesUp (liftM (Call.note e) : Attempt Unit) := by
  intro course fresh
  refine Abides.bind (Call.abides_note lenient_anything e course) ?_
  rintro later value rfl -
  exact behind_append_plain fresh (by simp [Plain, Action.writes])

theorem catchesUp_commit (id : String) (change : Change) (fact : Fact) :
    (Replica.commit id change fact).CatchesUp := by
  intro course _
  refine (Replica.abides_commit lenient_anything id fun _ => trivial).imp ?_
  rintro later result ⟨steps, rfl, committing⟩ ⟨value, rfl⟩
  cases committing with
  | @done rest plain refreshing =>
    have split : course ++ ⟨.write change fact, .ok ()⟩ :: rest =
        course ++ [⟨.write change fact, .ok ()⟩] ++ rest := by simp
    rw [split]
    exact behind_append_refreshing plain refreshing

end Attempt

namespace Authority

open Attempt

variable (me : Profile) {user role domain object action : String}

theorem catchesUp_roles : (roles user domain).CatchesUp :=
  (catchesUp_done _).bind fun _ => (catchesUp_done _).bind fun _ => catchesUp_look _

theorem catchesUp_permissions : (permissions user domain).CatchesUp := by
  refine catchesUp_roles.bind fun held course fresh => ?_
  refine Call.Abides.bind (abides_permissionsOfRoles lenient_anything held course) ?_
  rintro later granted ⟨indexes, rfl, -⟩ -
  exact behind_append_plain fresh (plain_looked indexes)

theorem catchesUp_domains : (domains me user).CatchesUp :=
  (catchesUp_done _).bind fun _ => (catchesUp_look _).bind fun _ => catchesUp_done _

theorem catchesUp_holders : (holders role domain).CatchesUp :=
  (catchesUp_done _).bind fun _ => (catchesUp_done _).bind fun _ => catchesUp_look _

theorem catchesUp_allows : (allows user domain object action).CatchesUp :=
  (catchesUp_done _).bind fun _ => (catchesUp_done _).bind fun _ =>
    catchesUp_permissions.bind fun _ => catchesUp_done _

theorem catchesUp_commitGrants (change : Change) (grants : List Grant) :
    (commitGrants me change grants).CatchesUp := by
  induction grants with
  | nil => exact catchesUp_done _
  | cons g rest ih => exact (catchesUp_commit _ _ _).bind fun _ => ih

theorem catchesUp_grant (actions : List String) :
    (grant me role domain object actions).CatchesUp :=
  (catchesUp_done _).bind fun _ =>
    (catchesUp_commitGrants me _ _).bind fun _ => catchesUp_note _

theorem catchesUp_revoke (actions : List String) :
    (revoke me role domain object actions).CatchesUp :=
  (catchesUp_done _).bind fun _ =>
    (catchesUp_commitGrants me _ _).bind fun _ => catchesUp_note _

theorem catchesUp_assign : (assign me user role domain).CatchesUp :=
  (catchesUp_done _).bind fun _ => (catchesUp_commit _ _ _).bind fun _ => catchesUp_note _

theorem catchesUp_unassign : (unassign me user role domain).CatchesUp :=
  (catchesUp_done _).bind fun _ => (catchesUp_commit _ _ _).bind fun _ => catchesUp_note _

theorem catchesUp_assignEach (users : List String) (made : List Assignment) :
    (assignEach me role domain users made).CatchesUp := by
  induction users generalizing made with
  | nil => exact catchesUp_note _
  | cons user rest ih =>
    refine (catchesUp_look _).bind fun held => ?_
    split
    · exact ih made
    · refine (catchesUp_commit _ _ _).handled (fun _ => ih _) fun cause => ?_
      exact Fails.after fun _ => Fails.after fun _ => fails_fail cause

theorem catchesUp_assignAll (users : List String) :
    (assignAll me users role domain).CatchesUp :=
  (catchesUp_done _).bind fun _ => catchesUp_assignEach me users []

theorem catchesUp_createNamespace (creator : String) (record : Namespace) :
    (createNamespace me creator record).CatchesUp := by
  refine (catchesUp_done _).bind fun _ => (catchesUp_done _).bind fun _ => ?_
  refine CatchesUp.bind ?_ fun created => ?_
  · intro course fresh answer
    refine ⟨trivial, fun _ => ?_⟩
    exact behind_append_plain fresh (by simp [Plain, Action.writes])
  · refine (catchesUp_assign me).handled (fun _ => ?_) fun cause => ?_
    · exact (catchesUp_note _).bind fun _ => catchesUp_done _
    · exact Fails.after fun _ => fails_fail _

end Authority

theorem Policy.Request.catchesUp (me : Profile) (r : Policy.Request) :
    (r.call me).CatchesUp := by
  cases r with
  | grant => exact (Authority.catchesUp_grant me _).map _
  | revoke => exact (Authority.catchesUp_revoke me _).map _
  | assign => exact (Authority.catchesUp_assign me).map _
  | unassign => exact (Authority.catchesUp_unassign me).map _
  | assignAll => exact (Authority.catchesUp_assignAll me _).map _
  | roles => exact Authority.catchesUp_roles.map _
  | permissions => exact Authority.catchesUp_permissions.map _
  | domains => exact (Authority.catchesUp_domains me).map _
  | holders => exact Authority.catchesUp_holders.map _
  | allows => exact Authority.catchesUp_allows.map _

/-- A call that has reported success is not behind. -/
theorem Origin.catchesUp (me : Profile) (origin : Origin) :
    (origin.call me).Abides Anything
      (fun course outcome => (∃ response, outcome = .served (.ok response)) →
        behind course = false) [] := by
  cases origin with
  | heard s =>
    refine Call.Abides.bind (Call.abides_anything _ []) ?_
    rintro later value - ⟨response, ⟨⟩⟩
  | asked errand =>
    cases errand with
    | request r =>
      refine Call.Abides.bind (r.catchesUp me [] rfl) ?_
      rintro later result caughtUp ⟨response, ⟨⟩⟩
      exact caughtUp ⟨response, rfl⟩
    | change c fact =>
      refine Call.Abides.bind (Attempt.catchesUp_commit me.id c fact [] rfl) ?_
      rintro later result caughtUp ⟨response, succeeds⟩
      cases result with
      | ok value => exact caughtUp ⟨value, rfl⟩
      | error cause => cases succeeds
    | rebuild =>
      refine Call.Abides.bind (Replica.abides_rebuild lenient_anything me.id []) ?_
      rintro later result ⟨steps, rfl, plain, -⟩ -
      have fresh : behind [] = false := rfl
      exact behind_append_plain fresh plain
    | watch =>
      refine Call.Abides.bind (Call.abides_anything _ []) ?_
      rintro later value - ⟨response, ⟨⟩⟩
    | createNamespace creator record =>
      refine Call.Abides.bind (Authority.catchesUp_createNamespace me creator record [] rfl) ?_
      rintro later result caughtUp ⟨response, succeeds⟩
      cases result with
      | ok value => exact caughtUp ⟨value, rfl⟩
      | error cause => cases succeeds

/-! ### Main results -/

/-- The index lists the fact. -/
def Index.Lists (i : Index) : Fact → Prop
  | .grant g => g ∈ i.grants
  | .assignment a => a ∈ i.assignments

namespace Traffic

variable {start t u : Traffic} {turns : List Turn}

/-- A call that has reported success has swapped an index in after each of its writes. -/
theorem Opening.exists_swap (opening : start.Opening) (played : start.play turns = some t)
    {n k w : Nat} {change : Change} {fact : Fact} {response : Policy.Response}
    (wrote : (start.chronicle turns)[w]? = some (.acted n k ⟨.write change fact, .ok ()⟩))
    (succeeded : t.outcomeOf? n = some (.served (.ok response))) :
    ∃ j index, w < j ∧ (start.chronicle turns)[j]? = some (.acted n k ⟨.swapIndex index, ()⟩) := by
  have recorded := opening.recorded played
  obtain ⟨task, found, own⟩ := recorded.acted n k _ (List.mem_of_getElem? wrote)
  obtain ⟨i, origin, begun⟩ := recorded.known n (List.getElem?_eq_some_iff.mp found).1
  have fresh : behind (courseOf n (start.chronicle turns)) = false :=
    recorded.ends begun (fun me => origin.catchesUp me) succeeded ⟨response, rfl⟩
  rw [courseOf_eq wrote] at fresh
  obtain ⟨index, member⟩ := refreshing_of_not_behind fresh
  obtain ⟨l, inLater⟩ := mem_courseOf.mp member
  obtain ⟨j, entry⟩ := List.mem_iff_getElem?.mp inLater
  rw [List.getElem?_drop] at entry
  -- All steps of a call are steps of one replica.
  obtain ⟨same, found', other⟩ := recorded.acted n l _ (List.mem_of_getElem? entry)
  obtain rfl := Option.some.inj (found.symm.trans found')
  exact ⟨w + 1 + j, index, by omega, (own.symm.trans other) ▸ entry⟩

/-- Once a call has swapped an index in after its write, every index that its replica serves was
queried for after the write. -/
theorem Opening.built_after (opening : start.Opening) (played : start.play turns = some t)
    {n k w j : Nat} {change : Change} {fact : Fact} {answer : Except StoreFailure Unit}
    {index : Index}
    (wrote : (start.chronicle turns)[w]? = some (.acted n k ⟨.write change fact, answer⟩))
    (later : w < j)
    (swapped : (start.chronicle turns)[j]? = some (.acted n k ⟨.swapIndex index, ()⟩)) :
    ∃ m a b, BuiltAt (start.chronicle turns) m k a b (t.fleet.indexOf k) ∧ w < a := by
  obtain ⟨stands, sourced⟩ := opening.sourced played
  rcases sourced.serving k with ⟨none, -⟩ | ⟨i, m, served, last⟩
  · exact absurd ⟨n, index, rfl⟩ (none _ (List.mem_of_getElem? swapped))
  · obtain ⟨a, b, built, before, undisturbed⟩ := sourced.swapped i m k _ served
    refine ⟨m, a, b, built, ?_⟩
    rcases lt_trichotomy i j with earlier | rfl | afterwards
    · have inside := (List.getElem?_eq_some_iff.mp swapped).1
      exact absurd ⟨n, index, rfl⟩ (last j _ earlier inside swapped)
    · -- The index in service is the one that the call has swapped in itself.
      obtain ⟨rfl, -⟩ := Happening.acted.inj (Option.some.inj (swapped.symm.trans served))
      exact undisturbed.lt_of_lt built wrote (.inr ⟨k, change, fact, answer, rfl⟩) later
    · exact later.trans (undisturbed.lt_of_lt built swapped (.inl ⟨n, index, rfl⟩) afterwards)

/-- An index that was queried for after an accepted write lists what was written, unless somebody
has written otherwise since. -/
theorem Opening.lists_iff (opening : start.Opening) (played : start.play turns = some t)
    {n m k l a b w : Nat} {change : Change} {fact : Fact} {index : Index}
    (wrote : (start.chronicle turns)[w]? = some (.acted n k ⟨.write change fact, .ok ()⟩))
    (built : BuiltAt (start.chronicle turns) m l a b index) (after : w < a)
    (unopposed : ∀ i h other, w < i → (start.chronicle turns)[i]? = some h →
      h.written? = some (other, fact) → (start.StoredAt turns (i + 1) fact ↔ other = .insert) →
      other = change) : index.Lists fact ↔ change = .insert := by
  have written := opening.storedAt_of_accepted played wrote
  obtain ⟨u, v, first, second, rfl⟩ := opening.contents_of_built played built
  -- By the moment of either query nothing has been written otherwise.
  have goesOn {i : Nat} (since : w < i) : start.StoredAt turns i fact ↔ change = .insert :=
    storedAt_of_span opening.obedient played since
      (fun m h other from_ _ => unopposed m h other from_) written
  cases fact with
  | grant g => exact (storedAt_iff first).symm.trans (goesOn after)
  | assignment a => exact (storedAt_iff second).symm.trans (goesOn (after.trans built.ordered))

section Results

variable {capacity : Nat} {relations : Relations} {replicas : List Member}
  {storeFaults : List (Fault Occasion StoreEffect)}
  {signalFaults : List (Fault Occasion SignalFailure)}

/-- Whatever calls and watchers the replicas run at the same time and whatever fails.
An index that replaces another one was queried for after the other was swapped in. Once a call has
reported success, or has swapped an index in after its write, its replica serves only indexes that
were queried for after the write; they list what was written until a write of the opposite takes
effect. -/
theorem serves_own_writes
    (played : (gathered capacity relations replicas storeFaults signalFaults).play turns = some t) :
    let start := gathered capacity relations replicas storeFaults signalFaults
    let past := start.chronicle turns
    (∀ i j m n k old new, past[i]? = some (.acted m k ⟨.swapIndex old, ()⟩) →
      past[j]? = some (.acted n k ⟨.swapIndex new, ()⟩) → i < j →
      ∃ a b c d, BuiltAt past m k a b old ∧ BuiltAt past n k c d new ∧
        b < i ∧ i < c ∧ d < j) ∧
    ∀ n k w change fact, past[w]? = some (.acted n k ⟨.write change fact, .ok ()⟩) →
      ((∃ response, t.outcomeOf? n = some (.served (.ok response))) ∨
        ∃ j index, w < j ∧ past[j]? = some (.acted n k ⟨.swapIndex index, ()⟩)) →
      (∃ m a b, BuiltAt past m k a b (t.fleet.indexOf k) ∧ w < a) ∧
      ((∀ i h other, w < i → past[i]? = some h → h.written? = some (other, fact) →
        (start.StoredAt turns (i + 1) fact ↔ other = .insert) → other = change) →
        ((t.fleet.indexOf k).Lists fact ↔ change = .insert)) := by
  intro start past
  have opening : start.Opening := opening_gathered
  constructor
  · intro i j m n k old new first second ordered
    obtain ⟨stands, sourced⟩ := opening.sourced played
    obtain ⟨a, b, builtFirst, before, -⟩ := sourced.swapped i m k old first
    obtain ⟨c, d, builtSecond, before', undisturbed⟩ := sourced.swapped j n k new second
    have between := undisturbed.lt_of_lt builtSecond first (.inl ⟨m, old, rfl⟩) ordered
    exact ⟨a, b, c, d, builtFirst, builtSecond, before, between, before'⟩
  · intro n k w change fact wrote done
    have swapped : ∃ j index, w < j ∧ past[j]? = some (.acted n k ⟨.swapIndex index, ()⟩) := by
      rcases done with ⟨response, succeeded⟩ | swapped
      · exact opening.exists_swap played wrote succeeded
      · exact swapped
    obtain ⟨j, index, later, entry⟩ := swapped
    obtain ⟨m, a, b, built, after⟩ := opening.built_after played wrote later entry
    exact ⟨⟨m, a, b, built, after⟩, opening.lists_iff played wrote built after⟩

end Results

/-- Replica `a` assigns a role to Alice. Between the write and its rebuild another rebuild of `a`
gets the lock and fails, and `b` writes something else. -/
def crowdedWrite : List Turn :=
  [.begins 0 .rebuild, .begins 0 (.change .insert (.assignment ⟨"alice", "viewer", "docs"⟩)),
    .goes 0, .goes 1, .goes 0,
    .begins 1 (.change .insert (.assignment ⟨"bob", "viewer", "docs"⟩)), .goes 2] ++
  List.replicate 3 (.goes 0) ++ List.replicate 9 (.goes 1)

/-- The store fails its first query. -/
def failingFirst : Traffic :=
  gathered 1 .empty (pair .empty)
    [{ trigger := { point := .query }, times := some 1,
       effect := { failure := .unavailable "down" } }]

theorem serves_own_writes_crowded :
    ∃ t, failingFirst.play crowdedWrite = some t ∧
      (∃ m a b, BuiltAt (failingFirst.chronicle crowdedWrite) m 0 a b (t.fleet.indexOf 0) ∧ 3 < a) ∧
      (t.fleet.indexOf 0).Lists (.assignment ⟨"alice", "viewer", "docs"⟩) := by
  have course : (failingFirst.play crowdedWrite).any (fun t =>
      decide (t.outcomeOf? 1 = some (.served (.ok .done)))) = true := by decide +kernel
  obtain ⟨t, played, fits⟩ := (Option.any_eq_true _ _).mp course
  have succeeded : t.outcomeOf? 1 = some (.served (.ok .done)) := of_decide_eq_true fits
  have wrote : (failingFirst.chronicle crowdedWrite)[3]? = some
      (.acted 1 0 ⟨.write .insert (.assignment ⟨"alice", "viewer", "docs"⟩), .ok ()⟩) := by
    decide +kernel
  have inserts : ∀ h ∈ failingFirst.chronicle crowdedWrite,
      h.written?.all (fun written => decide (written.1 = .insert)) = true := by decide +kernel
  obtain ⟨built, lists⟩ := (serves_own_writes played).2 1 0 3 _ _ wrote (.inl ⟨_, succeeded⟩)
  refine ⟨t, played, built, (lists fun i h other _ found writes _ => ?_).mpr rfl⟩
  have inserted := inserts h (List.mem_of_getElem? found)
  rw [writes, Option.all_some] at inserted
  exact of_decide_eq_true inserted

end Traffic

end Entitlement
