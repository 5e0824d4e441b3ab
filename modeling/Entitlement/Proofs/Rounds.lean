import Entitlement.Proofs.AllOrNothing

/-!
# The rounds of a batch

A call that commits facts has a round for each of them, and its deeds are those of its rounds, one
after the other. A batch of assignments has a round for each user who lacks the role, in the order
of the users, until a round fails. Then it has one more for each assignment that it has to take for
its own, the newest first, and no round of these keeps it from the next.
-/

namespace Entitlement

open Fleet (Committed Current Serves deeds handler)

/-- The commit of one fact, by what became of its write, its rebuild and its signal. Without an
accepted write there is neither rebuild nor signal. -/
structure Round where
  change : Change
  fact : Fact
  refused : Option StoreFailure := none
  -- Whether the store holds the fact after the write.
  stored : Bool
  stopped : Option StoreFailure := none
  lost : Option SignalFailure := none
deriving DecidableEq, Repr

namespace Round

def write (t : Round) : Change × Fact := (t.change, t.fact)

/-- The write that takes back what this round inserted. -/
def mirrored (t : Round) : Change × Fact := (.delete, t.fact)

/-- The write was accepted. -/
def effective (t : Round) : Bool := t.refused.isNone

/-- What the commit returns. -/
def result (t : Round) : Except Failure Unit :=
  match t.refused, t.stopped with
  | some cause, _ => .error (.store cause)
  | none, some cause => .error (.stale (.store cause))
  | none, none => .ok ()

def deeds (id : String) (t : Round) : List Deed :=
  .wrote t.change t.fact t.refused t.stored ::
    if t.effective then [.rebuilt t.stopped, .signalled ⟨id⟩ t.lost] else []

theorem effective_of_ok {t : Round} (returned : t.result = .ok ()) : t.effective = true := by
  unfold result at returned
  split at returned
  · cases returned
  · cases returned
  next accepted _ => simp [effective, accepted]

/-- A failure says whether the write was accepted. -/
theorem effective_of_error {t : Round} {cause : Failure} (returned : t.result = .error cause) :
    t.effective = cause.writePersisted := by
  unfold result at returned
  split at returned
  next refused =>
    cases returned
    simp [effective, refused, Failure.writePersisted]
  next accepted _ =>
    cases returned
    simp [effective, accepted, Failure.writePersisted]
  · cases returned

end Round

/-- The write of a deed that writes. -/
def Deed.write? : Deed → Option (Change × Fact)
  | wrote change fact _ _ => some (change, fact)
  | rebuilt _ => none
  | signalled .. => none

/-- The writes of a call are those of its rounds. -/
theorem Round.writes_eq (id : String) (rounds : List Round) :
    (rounds.flatMap (Round.deeds id)).filterMap Deed.write? = rounds.map Round.write := by
  induction rounds with
  | nil => rfl
  | cons t rest ih =>
    rw [List.flatMap_cons, List.filterMap_append, ih]
    cases effective : t.effective <;> simp [Round.deeds, effective, Deed.write?, Round.write]

theorem Fleet.Committed.exists_round {f g : Fleet} {k : Nat} {id : String} {change : Change}
    {fact : Fact} {result : Except Failure Unit} {done : List Deed}
    (committed : Committed f k id change fact result done g) :
    ∃ t : Round, t.write = (change, fact) ∧ t.result = result ∧ t.deeds id = done := by
  cases committed with
  | @refused g effect armed relations index =>
    exact ⟨{ change, fact, refused := some effect.failure, stored := g.relations.stores fact },
      rfl, rfl, rfl⟩
  | @done g lost relations index =>
    exact ⟨{ change, fact, stored := g.relations.stores fact, lost }, rfl, rfl, rfl⟩
  | @stale g effect lost armed relations index =>
    exact ⟨{ change, fact, lost, stored := g.relations.stores fact,
             stopped := some effect.failure }, rfl, rfl, rfl⟩

/-! ### Who lacks the role -/

theorem distinct_filter {α : Type} [DecidableEq α] (wanted : α → Bool) (l : List α) :
    distinct (l.filter wanted) = (distinct l).filter wanted := by
  induction l with
  | nil => rfl
  | cons a rest ih =>
    cases keep : wanted a with
    | true =>
      rw [List.filter_cons_of_pos keep, distinct, distinct, List.filter_cons_of_pos keep, ih,
        List.filter_filter, List.filter_filter]
      simp only [Bool.and_comm]
    | false =>
      -- Later occurrences are left out as well.
      rw [List.filter_cons_of_neg (by simp [keep]), distinct,
        List.filter_cons_of_neg (by simp [keep]), ih, List.filter_filter]
      apply List.filter_congr
      intro b member
      by_cases same : b = a <;> simp [same, keep]

namespace Relations

variable {r : Relations} {user role domain : String} {rest : List String}

/-- The users who lack the role in the domain, each at its first occurrence. -/
def lacking (r : Relations) (users : List String) (role domain : String) : List String :=
  distinct (users.filter fun user => ¬ r.Holds (.assignment ⟨user, role, domain⟩))

theorem lacking_cons_of_holds (holds : r.Holds (.assignment ⟨user, role, domain⟩)) :
    r.lacking (user :: rest) role domain = r.lacking rest role domain := by
  simp [lacking, holds]

/-- Once the first of them is assigned the role, the others lack it still. -/
theorem lacking_cons_of_not_holds (lacks : ¬ r.Holds (.assignment ⟨user, role, domain⟩)) :
    r.lacking (user :: rest) role domain =
      user :: (r.write .insert (.assignment ⟨user, role, domain⟩)).lacking rest role domain := by
  have others : (rest.filter fun other =>
      ¬ (r.write .insert (.assignment ⟨user, role, domain⟩)).Holds
        (.assignment ⟨other, role, domain⟩)) =
      (rest.filter fun other => ¬ r.Holds (.assignment ⟨other, role, domain⟩)).filter
        (· ≠ user) := by
    rw [List.filter_filter]
    apply List.filter_congr
    intro other _
    simp [write, holds_insert]
  rw [lacking, List.filter_cons_of_pos (by simpa using lacks), distinct, lacking, others,
    ← distinct_filter]

end Relations

namespace Authority

variable (me : Profile) {k : Nat} {f : Fleet} {users : List String} {role domain : String}

/-- The insertion of the role for a user. -/
def assigning (role domain user : String) : Change × Fact :=
  (.insert, .assignment ⟨user, role, domain⟩)

/-- Taking back has a round for each assignment, in order, whatever becomes of the rounds. -/
theorem undo_rounds (serves : f.Serves k) (made : List Assignment) :
    ∃ rounds : List Round, deeds k (undo me made) f = rounds.flatMap (Round.deeds me.id) ∧
      rounds.map Round.write = made.map fun a => (.delete, .assignment a) := by
  induction made generalizing f with
  | nil => exact ⟨[], rfl, rfl⟩
  | cons a rest ih =>
    obtain ⟨result, early, g, played, done, committed, framed⟩ :=
      Fleet.exists_committed serves me.id .delete (.assignment a)
    obtain ⟨t, write, -, same⟩ := committed.exists_round
    have later := serves.of_framed framed
    rw [undo_cons, Fleet.deeds_bind, played, done, ← same]
    cases result with
    | ok =>
      obtain ⟨rounds, deeds, writes⟩ := ih later
      refine ⟨t :: rounds, ?_, ?_⟩
      · rw [List.flatMap_cons, ← deeds]
      · rw [List.map_cons, List.map_cons, write, writes]
    | error cause =>
      -- The failure is noted, which is no deed.
      obtain ⟨rounds, deeds, writes⟩ :=
        ih (f := g.note (.event (.undoFailed a cause))) ⟨later.honest, later.present⟩
      refine ⟨t :: rounds, ?_, ?_⟩
      · rw [List.flatMap_cons, ← deeds]
        rfl
      · rw [List.map_cons, List.map_cons, write, writes]

theorem continueBatch_rounds (serves : f.Serves k) (user role domain : String)
    (rest : List String) (made : List Assignment) (cause : Failure) :
    ∃ rounds : List Round,
      deeds k (continueBatch me user role domain rest made (.error cause)) f =
        rounds.flatMap (Round.deeds me.id) ∧
      rounds.map Round.write =
        (if cause.writePersisted then ⟨user, role, domain⟩ :: made else made).map
          fun a => (.delete, .assignment a) := by
  let made' := if cause.writePersisted then ⟨user, role, domain⟩ :: made else made
  obtain ⟨rounds, deeds, writes⟩ := undo_rounds me
    (f := f.note (.event (.batchFailed user role domain cause made'.length)))
    ⟨serves.honest, serves.present⟩ made'
  refine ⟨rounds, ?_, writes⟩
  simpa [continueBatch, handler, Fleet.deed?] using deeds

/-- The course of a batch for users of whom these lack the role, when `made` is assigned already.
The rounds of `inserted` succeeded, the one of `failed` did not, and those of `undone` take back. -/
structure Saga (id role domain : String) (lacking : List String) (made : List Assignment)
    (result : Except Failure Unit) (done : List Deed) (inserted : List Round)
    (failed : Option Round) (undone : List Round) : Prop where
  course : done = (inserted ++ failed.toList ++ undone).flatMap (Round.deeds id)
  inOrder : (inserted ++ failed.toList).map Round.write <+: lacking.map (assigning role domain)
  succeeded : ∀ t ∈ inserted, t.result = .ok ()
  -- Without a failure everybody gets the role, and that is all.
  whole : failed = none → inserted.length = lacking.length ∧ undone = [] ∧ result = .ok ()
  -- After a failure everything that was accepted is taken back, the newest first.
  broken : ∀ t ∈ failed, ∃ cause, t.result = .error cause ∧ result = .error cause ∧
    undone.map Round.write =
      ((inserted ++ failed.toList).filter Round.effective).reverse.map Round.mirrored ++
        made.map fun a => (.delete, .assignment a)

theorem assignEach_saga (serves : f.Serves k) (current : f.Current k)
    (named : ∀ user ∈ users, user ≠ "") (made : List Assignment) :
    ∃ inserted failed undone,
      Saga me.id role domain (f.relations.lacking users role domain) made
        ((assignEach me role domain users made).run.run (handler k) f).1
        (deeds k (assignEach me role domain users made).run f) inserted failed undone := by
  induction users generalizing f made with
  | nil =>
    refine ⟨[], none, [], ?_⟩
    constructor
    case course => rfl
    case inOrder => exact List.nil_prefix
    case succeeded => exact List.forall_mem_nil _
    case whole => exact fun _ => ⟨rfl, rfl, rfl⟩
    case broken =>
      intro last isLast
      cases isLast
  | cons user rest ih =>
    have namedRest : ∀ user ∈ rest, user ≠ "" :=
      fun other member => named other (List.mem_cons_of_mem _ member)
    have listed : role ∈ (f.indexOf k).rolesOf user domain ↔
        f.relations.Holds (.assignment ⟨user, role, domain⟩) := by
      rw [current, Index.mem_rolesOf (named user List.mem_cons_self)]
      rfl
    rcases assignEach_cases me serves user rest made with
      ⟨held, played, done⟩ | ⟨absent, result, early, g, committed, framed, played, done⟩
    · rw [played, done, Relations.lacking_cons_of_holds (listed.mp held)]
      exact ih serves current namedRest made
    · obtain ⟨t, write, returned, same⟩ := committed.exists_round
      have later := serves.of_framed framed
      rw [played, done, ← same,
        Relations.lacking_cons_of_not_holds fun holds => absent (listed.mpr holds)]
      cases result with
      | ok =>
        obtain ⟨relations, fresh⟩ := committed.current
        obtain ⟨inserted, failed, undone, saga⟩ := ih later fresh namedRest
          (⟨user, role, domain⟩ :: made)
        rw [relations] at saga
        refine ⟨t :: inserted, failed, undone, ?_⟩
        constructor
        case course =>
          rw [List.cons_append, List.cons_append, List.flatMap_cons, ← saga.course]
          rfl
        case inOrder =>
          rw [List.cons_append, List.map_cons, write, List.map_cons]
          exact List.cons_prefix_cons.mpr ⟨rfl, saga.inOrder⟩
        case succeeded => exact List.forall_mem_cons.mpr ⟨returned, saga.succeeded⟩
        case whole =>
          intro complete
          obtain ⟨all, rest⟩ := saga.whole complete
          exact ⟨by rw [List.length_cons, List.length_cons, all], rest⟩
        case broken =>
          intro last isLast
          obtain ⟨cause, failing, reported, writes⟩ := saga.broken last isLast
          refine ⟨cause, failing, reported, ?_⟩
          -- What was made before this round is now made before it and by it.
          have fact : t.fact = .assignment ⟨user, role, domain⟩ := congrArg Prod.snd write
          rw [writes, List.cons_append, List.filter_cons_of_pos (Round.effective_of_ok returned),
            List.reverse_cons, List.map_append, List.append_assoc, List.map_singleton,
            Round.mirrored, fact]
          rfl
      | error cause =>
        obtain ⟨reported, -⟩ := continueBatch_error me later role domain user rest made cause
        obtain ⟨undone, deeds, writes⟩ :=
          continueBatch_rounds me later user role domain rest made cause
        refine ⟨[], some t, undone, ?_⟩
        constructor
        case course =>
          rw [deeds]
          rfl
        case inOrder =>
          rw [List.nil_append, Option.toList_some, List.map_singleton, write, List.map_cons]
          exact List.cons_prefix_cons.mpr ⟨rfl, List.nil_prefix⟩
        case succeeded => exact List.forall_mem_nil _
        case whole =>
          intro complete
          cases complete
        case broken =>
          intro last isLast
          cases isLast
          have fact : t.fact = .assignment ⟨user, role, domain⟩ := congrArg Prod.snd write
          refine ⟨cause, returned, reported, ?_⟩
          rw [writes, List.nil_append, Option.toList_some, List.filter_cons, List.filter_nil,
            Round.effective_of_error returned]
          cases cause.writePersisted <;> simp [Round.mirrored, fact]

/-- Whatever the store holds and whatever fails, a batch on a replica with a current index writes
nothing if its request lacks something, and otherwise follows the course of a saga over the users
who lack the role. -/
theorem assignAll_saga (serves : f.Serves k) (current : f.Current k) :
    let result := (f.run k (assignAll me users role domain)).1
    let done := deeds k (assignAll me users role domain).run f
    match Demand.check (usersDemands users role domain) with
    | .error cause => result = .error cause ∧ done = []
    | .ok () =>
      ∃ inserted failed undone,
        Saga me.id role domain (f.relations.lacking users role domain) [] result done inserted
          failed undone ∧
        done.filterMap Deed.write? = (inserted ++ failed.toList ++ undone).map Round.write := by
  intro result done
  split
  next cause unmet =>
    simp only [result, done, Fleet.run, assignAll_of_check_error me unmet, Call.run_done,
      Fleet.deeds_done, and_self]
  next met =>
    simp only [result, done, Fleet.run, assignAll_of_check me met]
    obtain ⟨inserted, failed, undone, saga⟩ :=
      assignEach_saga me serves current (named_of_check met) []
    refine ⟨inserted, failed, undone, saga, ?_⟩
    rw [saga.course]
    exact Round.writes_eq me.id _

/-- Carol and Alice are inserted and Bob is refused; then both deletions are refused, and both are
tried. Dave has no round. -/
theorem assignAll_saga_stubborn :
    let call := assignAll { id := "a" } ["carol", "alice", "carol", "bob", "dave"] "viewer" "docs"
    (∃ inserted failed undone,
      Saga "a" "viewer" "docs" ["carol", "alice", "bob", "dave"] []
        ((alone false).run 0 call).1 (deeds 0 call.run (alone false)) inserted failed undone) ∧
    (deeds 0 call.run (alone false)).filterMap Deed.write? =
      [assigning "viewer" "docs" "carol", assigning "viewer" "docs" "alice",
        assigning "viewer" "docs" "bob", (.delete, .assignment ⟨"alice", "viewer", "docs"⟩),
        (.delete, .assignment ⟨"carol", "viewer", "docs"⟩)] := by
  have serves : (alone false).Serves 0 := ⟨rfl, rfl⟩
  obtain ⟨inserted, failed, undone, saga, -⟩ := @assignAll_saga { id := "a" } 0 (alone false)
    ["carol", "alice", "carol", "bob", "dave"] "viewer" "docs" serves rfl
  exact ⟨⟨inserted, failed, undone, saga⟩, rfl⟩

end Authority

end Entitlement
