import Entitlement.Proofs.Chronicle

/-!
# Where an index comes from

An index that a replica serves was made by one rebuild, from the answers to its two queries. The
lock of the replica keeps the other rebuilds away from the first query to the swap, so the indexes
of a replica come from queries in the order in which they are swapped in. Nothing keeps the writes
away: what is written between the two queries is in the answer to one of them only.
-/

namespace Entitlement

open Function (update)

/-- An index of replica `k` is swapped in. -/
def Happening.Swaps (k : Nat) (h : Happening) : Prop :=
  ∃ n index, h = .acted n k ⟨.swapIndex index, ()⟩

/-- Call number `n` writes. -/
def Happening.Writes (n : Nat) (h : Happening) : Prop :=
  ∃ k change fact answer, h = .acted n k ⟨.write change fact, answer⟩

/-- A fact of the relation is inserted or deleted. -/
def Happening.Alters (relation : String) (h : Happening) : Prop :=
  ∃ change fact, h.written? = some (change, fact) ∧ fact.relation = relation

/-- Nothing of the kind happens between the two moments. -/
def Without (P : Happening → Prop) (past : List Happening) (a b : Nat) : Prop :=
  ∀ i h, a < i → i < b → past[i]? = some h → ¬ P h

namespace Without

variable {P : Happening → Prop} {past : List Happening} {a b : Nat} {h : Happening}

theorem kept (without : Without P past a b) (inside : b ≤ past.length) :
    Without P (past ++ [h]) a b := by
  intro i other after before found
  refine without i other after before ?_
  rwa [List.getElem?_append_left (by omega)] at found

theorem concat (without : Without P past a past.length) (not : ¬ P h) :
    Without P (past ++ [h]) a (past ++ [h]).length := by
  intro i other after before found
  rcases getElem?_concat.mp found with old | ⟨-, rfl⟩
  · exact without i other after (List.getElem?_eq_some_iff.mp old).1 old
  · exact not

/-- What is of the kind happened before the stretch if it happened before its end. -/
theorem lt_of_lt (without : Without P past a b) {i : Nat} {g : Happening}
    (found : past[i]? = some h) (kind : P h) (before : i < b) (first : past[a]? = some g)
    (not : ¬ P g) : i < a := by
  rcases lt_trichotomy i a with earlier | rfl | later
  · exact earlier
  · obtain rfl := Option.some.inj (found.symm.trans first)
    exact absurd kind not
  · exact absurd kind (without i h later before found)

theorem last : Without P (past ++ [h]) past.length (past ++ [h]).length := by
  intro i other after before
  rw [List.length_append, List.length_singleton] at before
  omega

end Without

/-- The index is what the store answered call number `n` of replica `k` at the moments `a` and
`b`. -/
structure BuiltAt (past : List Happening) (n k a b : Nat) (index : Index) : Prop where
  ordered : a < b
  answers : ∃ grants assignments,
    past[a]? = some (.acted n k ⟨.query .allGrants, .ok grants⟩) ∧
    past[b]? = some (.acted n k ⟨.query .allAssignments, .ok assignments⟩) ∧
    index = .ofAnswers grants assignments

theorem BuiltAt.kept {past : List Happening} {n k a b : Nat} {index : Index} {h : Happening}
    (built : BuiltAt past n k a b index) : BuiltAt (past ++ [h]) n k a b index := by
  obtain ⟨grants, assignments, first, second, same⟩ := built.answers
  exact ⟨built.ordered, grants, assignments, getElem?_concat.mpr (.inl first),
    getElem?_concat.mpr (.inl second), same⟩

/-- The course asks for all grants and then for all assignments, and the index lists the answers. -/
def Replica.Loading (course : List Step) (index : Index) : Prop :=
  ∃ grants assignments note, index = .ofAnswers grants assignments ∧
    course = [⟨.query .allGrants, .ok grants⟩, ⟨.query .allAssignments, .ok assignments⟩,
      ⟨.note note, ()⟩]

/-- The first index of a replica is made in the same way as the others. -/
theorem Replica.abides_load (id storeName channelName : String) :
    (load id storeName channelName).run.Abides Anything
      (fun course result => ∀ index, result = .ok index → Loading course index) [] := by
  simp only [load, buildIndex, Attempt.ofStore, Attempt.run_bind, Attempt.run_liftCall,
    Call.perform, Call.act_bind, Call.done_bind, bind_assoc]
  refine .of_plain lenient_anything rfl fun grants => ?_
  cases grants with
  | error cause => rintro _ ⟨⟩
  | ok grants =>
    refine .of_plain lenient_anything rfl fun assignments => ?_
    cases assignments with
    | error cause => rintro _ ⟨⟩
    | ok assignments =>
      refine .of_plain lenient_anything rfl fun _ => ?_
      rintro _ ⟨⟩
      exact ⟨grants, assignments, _, rfl, rfl⟩

/-- Between the two moments nobody swaps an index of replica `k` in and call number `n` writes
nothing. -/
def Undisturbed (past : List Happening) (n k a b : Nat) : Prop :=
  Without (fun h => h.Swaps k ∨ h.Writes n) past a b

/-- A swap of the replica or a write of the call that comes before the swap of the call comes before
its first query, too. -/
theorem Undisturbed.lt_of_lt {past : List Happening} {n k a b i j : Nat} {index : Index}
    {h : Happening} (undisturbed : Undisturbed past n k a j) (built : BuiltAt past n k a b index)
    (found : past[i]? = some h) (kind : h.Swaps k ∨ h.Writes n) (before : i < j) : i < a := by
  obtain ⟨grants, assignments, first, -, -⟩ := built.answers
  refine Without.lt_of_lt undisturbed found kind before first ?_
  rintro (⟨_, _, ⟨⟩⟩ | ⟨_, _, _, _, ⟨⟩⟩)

/-- What a rebuild has in hand was answered since the last swap. -/
def Stage.Sourced (past : List Happening) (n k : Nat) : Stage → Prop
  | .asked grants => ∃ a, past[a]? = some (.acted n k ⟨.query .allGrants, .ok grants⟩) ∧
      Undisturbed past n k a past.length
  | .built index => ∃ a b, BuiltAt past n k a b index ∧ Undisturbed past n k a past.length
  | _ => True

theorem Stage.Sourced.concat {past : List Happening} {n k : Nat} {stage : Stage} {h : Happening}
    (sourced : stage.Sourced past n k)
    (apart : stage.holds = true → ¬ (h.Swaps k ∨ h.Writes n)) :
    stage.Sourced (past ++ [h]) n k := by
  cases stage with
  | asked grants =>
    obtain ⟨a, found, undisturbed⟩ := sourced
    exact ⟨a, getElem?_concat.mpr (.inl found), Without.concat undisturbed (apart rfl)⟩
  | built index =>
    obtain ⟨a, b, built, undisturbed⟩ := sourced
    exact ⟨a, b, built.kept, Without.concat undisturbed (apart rfl)⟩
  | _ => trivial

namespace Lawful

variable {id : String} {a : Action} {answer : a.Answer} {st later : Stand}

theorem stage_of_swap {index : Index} {answer : Action.Answer (.swapIndex index)}
    (lawful : Lawful id st (.swapIndex index) answer later) : st.stage = .built index := by
  cases lawful with
  | silent _ _ silent => exact silent.elim
  | swapped => rfl

/-- What the call does itself does not spoil what it has in hand. -/
theorem sourced (lawful : Lawful id st a answer later) {past : List Happening} {n k : Nat}
    (sourced : st.stage.Sourced past n k) :
    later.stage.Sourced (past ++ [.acted n k ⟨a, answer⟩]) n k := by
  have now : (past ++ [.acted n k ⟨a, answer⟩])[past.length]? = some (.acted n k ⟨a, answer⟩) :=
    getElem?_concat.mpr (.inr ⟨rfl, rfl⟩)
  cases lawful with
  | silent _ _ silent =>
    refine sourced.concat fun _ => ?_
    rintro (⟨_, _, ⟨⟩⟩ | ⟨_, _, _, _, ⟨⟩⟩) <;> exact silent
  | asked grants => exact ⟨past.length, now, .last⟩
  | built grants assignments =>
    obtain ⟨a, found, undisturbed⟩ := sourced
    have ordered : a < past.length := (List.getElem?_eq_some_iff.mp found).1
    refine ⟨a, past.length, ⟨ordered, grants, assignments, ?_, now, rfl⟩, ?_⟩
    · exact getElem?_concat.mpr (.inl found)
    · refine Without.concat undisturbed ?_
      rintro (⟨_, _, ⟨⟩⟩ | ⟨_, _, _, _, ⟨⟩⟩)
  | written | refused | locked | stopped | swapped | succeeded | failed | released | told | opened
  | unopened | closed => trivial

end Lawful

namespace Traffic

variable {t u : Traffic} {stands later : Nat → Stand} {turns : List Turn}

/-- Only a swap changes the index of a replica. -/
theorem Happens.indexOf_eq {h : Happening} {k : Nat} (happens : t.Happens stands h u later)
    (unswapped : ¬ h.Swaps k) : u.fleet.indexOf k = t.fleet.indexOf k := by
  cases happens with
  | began joins => exact Fleet.indexOf_congr joins.kept.members
  | @acted n j a answer me old new stand next u goes member =>
    subst member
    obtain ⟨watchers, fleet⟩ := goes.exists_fleet
    have index : u.fleet.indexOf k = (Fleet.handler old.member a t.fleet).2.indexOf k := by
      rw [fleet]
      rfl
    rw [index]
    by_cases own : k = old.member
    · subst own
      refine Fleet.indexOf_congr ?_
      by_cases writes : ∃ change fact, a = .write change fact
      · obtain ⟨change, fact, rfl⟩ := writes
        exact (Fleet.keeps_write change fact t.fleet).members
      · refine (Fleet.keeps_handler t.fleet ?_ ?_).members
        · exact fun change fact same => writes ⟨change, fact, same⟩
        · rintro _ rfl
          exact unswapped ⟨n, _, rfl⟩
    · have other := (Fleet.framed_handler old.member a t.fleet).others k own
      simp only [Fleet.indexOf, other]

theorem Happens.indexOf_of_swap {n k : Nat} {index : Index}
    (happens : t.Happens stands (.acted n k ⟨.swapIndex index, ()⟩) u later) :
    u.fleet.indexOf k = index := by
  cases happens with
  | @acted _ _ _ _ me old new stand next u goes member =>
    subst member
    obtain ⟨watchers, fleet⟩ := goes.exists_fleet
    have present : (t.fleet.member? old.member).isSome := by
      obtain ⟨m, found, -⟩ := Option.map_eq_some_iff.mp goes.present
      rw [found]
      rfl
    rw [fleet]
    exact Fleet.indexOf_swapIndex present index

/-- The index that replica `k` serves is the first one, or the last one that was swapped in. -/
def Serves (past : List Happening) (first : Fleet) (k : Nat) (f : Fleet) : Prop :=
  (∀ h ∈ past, ¬ h.Swaps k) ∧ f.indexOf k = first.indexOf k ∨
  ∃ j n, past[j]? = some (.acted n k ⟨.swapIndex (f.indexOf k), ()⟩) ∧
    Without (Happening.Swaps k) past j past.length

theorem Serves.happens {past : List Happening} {first : Fleet} {k : Nat} {h : Happening}
    (serves : Serves past first k t.fleet) (happens : t.Happens stands h u later) :
    Serves (past ++ [h]) first k u.fleet := by
  by_cases swaps : h.Swaps k
  · obtain ⟨n, index, rfl⟩ := swaps
    refine .inr ⟨past.length, n, ?_, .last⟩
    rw [happens.indexOf_of_swap]
    exact getElem?_concat.mpr (.inr ⟨rfl, rfl⟩)
  · have same := happens.indexOf_eq swaps
    rcases serves with ⟨none, unchanged⟩ | ⟨j, n, found, without⟩
    · refine .inl ⟨fun other member => ?_, same.trans unchanged⟩
      rcases List.mem_append.mp member with old | new
      · exact none other old
      · exact List.mem_singleton.mp new ▸ swaps
    · rw [← same] at found
      exact .inr ⟨j, n, getElem?_concat.mpr (.inl found), without.concat swaps⟩

/-- Where everything comes from that a rebuild has in hand, that was ever swapped in or that is
served. -/
structure Sourced (first : Fleet) (past : List Happening) (t : Traffic) (stands : Nat → Stand) :
    Prop where
  exclusive : t.Exclusive stands
  inHand : ∀ n task st, t.At stands n task st → st.stage.Sourced past n task.member
  swapped : ∀ j n k index, past[j]? = some (.acted n k ⟨.swapIndex index, ()⟩) →
    ∃ a b, BuiltAt past n k a b index ∧ b < j ∧ Undisturbed past n k a j
  serving : ∀ k, Serves past first k t.fleet

variable {first : Fleet} {past : List Happening}

/-- The calls that go on have in hand what they had, and a new call has nothing. -/
theorem Sourced.inHand_joined (sourced : Sourced first past t stands) {k : Nat} {origin : Origin}
    {me : Profile} {stand : Stand} (joins : t.Joins k origin me u)
    (stage : stand.stage = .idle ∨ stand.stage = .due) {i : Nat} {task : Task} {st : Stand}
    (entry : u.At (update stands t.tasks.length stand) i task st) :
    st.stage.Sourced (past ++ [.began t.tasks.length k origin]) i task.member := by
  obtain ⟨watcher, tasks⟩ := joins.tasks
  rcases (at_added tasks).mp entry with old | ⟨rfl, rfl, rfl⟩
  · refine (sourced.inHand i task st old).concat fun _ => ?_
    rintro (⟨_, _, ⟨⟩⟩ | ⟨_, _, _, _, ⟨⟩⟩)
  · rcases stage with idle | due
    · rw [idle]; trivial
    · rw [due]; trivial

theorem Sourced.inHand_stepped (sourced : Sourced first past t stands) {n k : Nat} {a : Action}
    {answer : a.Answer} {me : Profile} {old new : Task} {stand : Stand}
    (goes : t.Goes stands n a me old new stand u) (member : old.member = k)
    (answered : (Fleet.handler k a t.fleet).1 = answer) {i : Nat} {task : Task} {st : Stand}
    (entry : u.At (update stands n stand) i task st) :
    st.stage.Sourced (past ++ [.acted n k ⟨a, answer⟩]) i task.member := by
  subst member answered
  rcases goes.at_iff.mp entry with ⟨apart, kept⟩ | ⟨rfl, rfl, rfl⟩
  · refine (sourced.inHand i task st kept).concat fun holds => ?_
    -- Another rebuild of the same replica cannot be under way.
    rintro (⟨_, index, same⟩ | ⟨_, _, _, _, same⟩)
    · obtain ⟨rfl, own, step⟩ := Happening.acted.inj same
      obtain rfl : a = .swapIndex index := congrArg Sigma.fst step
      have building := goes.lawful.stage_of_swap
      refine apart (sourced.exclusive.alone i n task old st _ kept goes.before holds ?_ own.symm)
      rw [building]
      rfl
    · exact apart (Happening.acted.inj same).1.symm
  · rw [goes.member]
    exact goes.lawful.sourced (sourced.inHand i old _ goes.before)

/-- What is swapped in was in hand. -/
theorem Sourced.built_of_swap (sourced : Sourced first past t stands) {n k : Nat} {index : Index}
    (happens : t.Happens stands (.acted n k ⟨.swapIndex index, ()⟩) u later) :
    ∃ a b, BuiltAt past n k a b index ∧ Undisturbed past n k a past.length := by
  cases happens with
  | @acted _ _ _ _ me old new stand next u goes member =>
    have inHand := sourced.inHand n old _ goes.before
    rw [goes.lawful.stage_of_swap, member] at inHand
    exact inHand

theorem Sourced.happens (sourced : Sourced first past t stands) {h : Happening}
    (happens : t.Happens stands h u later) : Sourced first (past ++ [h]) u later where
  exclusive := sourced.exclusive.happens happens
  inHand n task st entry := by
    cases happens with
    | began joins stage => exact sourced.inHand_joined joins stage entry
    | acted goes member answered => exact sourced.inHand_stepped goes member answered entry
  swapped j n k index found := by
    rcases getElem?_concat.mp found with old | ⟨rfl, rfl⟩
    · obtain ⟨a, b, built, before, undisturbed⟩ := sourced.swapped j n k index old
      have inside := (List.getElem?_eq_some_iff.mp old).1
      exact ⟨a, b, built.kept, before, Without.kept undisturbed inside.le⟩
    · obtain ⟨a, b, built, undisturbed⟩ := sourced.built_of_swap happens
      obtain ⟨_, _, _, second, _⟩ := built.answers
      have before := (List.getElem?_eq_some_iff.mp second).1
      exact ⟨a, b, built.kept, before, Without.kept undisturbed le_rfl⟩
  serving k := (sourced.serving k).happens happens

theorem Opening.sourced {start : Traffic} (opening : start.Opening)
    (played : start.play turns = some t) :
    ∃ stands, Sourced start.fleet (start.chronicle turns) t stands := by
  have nothing : Sourced start.fleet [] start fun _ => .rest :=
    { exclusive := opening.exclusive
      inHand := fun _ _ _ entry => (opening.not_at entry).elim
      swapped := fun _ _ _ _ found => by cases found
      serving := fun _ => .inl ⟨fun _ member => absurd member List.not_mem_nil, rfl⟩ }
  obtain ⟨stands, sourced, -⟩ := exists_of_chronicle
    (fun sourced happens => sourced.happens happens) [] nothing opening.obedient played
  exact ⟨stands, sourced⟩

/-! ### Main results -/

theorem Opening.answer_of_query {start : Traffic} (opening : start.Opening)
    (played : start.play turns = some t) {m n k : Nat} {pattern : FactPattern} {facts : List Fact}
    (found : (start.chronicle turns)[m]? = some (.acted n k ⟨.query pattern, .ok facts⟩)) :
    ∃ u, start.play (turns.take m) = some u ∧ facts = u.fleet.relations.query pattern := by
  obtain ⟨u, w, before, after, reached, -, happens⟩ :=
    happens_of_chronicle opening.obedient played found
  exact ⟨u, reached, happens.answer_of_query (opening.honest_of_play reached)⟩

/-- An index lists the grants of one moment and the assignments of a later one. -/
theorem Opening.contents_of_built {start : Traffic} (opening : start.Opening)
    (played : start.play turns = some t) {n k a b : Nat} {index : Index}
    (built : BuiltAt (start.chronicle turns) n k a b index) :
    ∃ u v, start.play (turns.take a) = some u ∧ start.play (turns.take b) = some v ∧
      index = Relations.index ⟨u.fleet.relations.grants, v.fleet.relations.assignments⟩ := by
  obtain ⟨grants, assignments, first, second, rfl⟩ := built.answers
  obtain ⟨u, atFirst, rfl⟩ := opening.answer_of_query played first
  obtain ⟨v, atSecond, rfl⟩ := opening.answer_of_query played second
  -- Each query looks at its own relation only.
  have mixed := Relations.ofAnswers_query
    ⟨u.fleet.relations.grants, v.fleet.relations.assignments⟩
  exact ⟨u, v, atFirst, atSecond, mixed⟩

/-- A part of the content that only one relation bears on is the same at the moments of the two
queries if nothing of the relation is written in between. -/
theorem Opening.part_of_built {start : Traffic} (opening : start.Opening)
    (played : start.play turns = some t) {n k a b : Nat} {index : Index}
    (built : BuiltAt (start.chronicle turns) n k a b index) {α : Type} (part : Relations → α)
    {kind : String}
    (apart : ∀ change fact r, fact.relation ≠ kind → part (Relations.write change fact r) = part r)
    (without : Without (Happening.Alters kind) (start.chronicle turns) a b) {u v : Traffic}
    (first : start.play (turns.take a) = some u) (second : start.play (turns.take b) = some v) :
    part v.fleet.relations = part u.fleet.relations := by
  obtain ⟨grants, assignments, asked, -, -⟩ := built.answers
  refine relations_of_span (P := fun r => part r = part u.fleet.relations) opening.obedient played
    built.ordered.le ?_ first second rfl
  intro m h change fact from_ before found writes r kept
  have other : fact.relation ≠ kind := by
    intro same
    rcases Nat.lt_or_eq_of_le from_ with after | rfl
    · exact without m h after before found ⟨change, fact, writes, same⟩
    -- The first query itself writes nothing.
    · obtain rfl := Option.some.inj (asked.symm.trans found)
      cases writes
  exact (apart change fact r other).trans kept

section Results

variable {capacity : Nat} {relations : Relations} {replicas : List Member}
  {storeFaults : List (Fault Occasion StoreEffect)}
  {signalFaults : List (Fault Occasion SignalFailure)}

/-- Whatever the replicas do and whatever fails: the first index of a replica lists the answers to
two queries, and the index that a replica serves is its first one, or it lists the grants of the
moment of one query and the assignments of the moment of a later query of the same call. Only what
is written between the two can set it apart from the content of either moment. -/
theorem indexOf_eq_contents
    (played : (gathered capacity relations replicas storeFaults signalFaults).play turns = some t) :
    let start := gathered capacity relations replicas storeFaults signalFaults
    (∀ id storeName channelName, (Replica.load id storeName channelName).run.Abides Anything
      (fun course result => ∀ index, result = .ok index → Replica.Loading course index) []) ∧
    ∀ k, (∀ h ∈ start.chronicle turns, ¬ h.Swaps k) ∧
        t.fleet.indexOf k = start.fleet.indexOf k ∨
      ∃ n a b u v, BuiltAt (start.chronicle turns) n k a b (t.fleet.indexOf k) ∧
        start.play (turns.take a) = some u ∧ start.play (turns.take b) = some v ∧
        t.fleet.indexOf k =
          Relations.index ⟨u.fleet.relations.grants, v.fleet.relations.assignments⟩ ∧
        (Without (Happening.Alters "assignment") (start.chronicle turns) a b →
          t.fleet.indexOf k = u.fleet.relations.index) ∧
        (Without (Happening.Alters "grant") (start.chronicle turns) a b →
          t.fleet.indexOf k = v.fleet.relations.index) := by
  intro start
  have opening : start.Opening := opening_gathered
  obtain ⟨stands, sourced⟩ := opening.sourced played
  refine ⟨Replica.abides_load, fun k => ?_⟩
  rcases sourced.serving k with first | ⟨j, n, found, -⟩
  · exact .inl first
  · obtain ⟨a, b, built, -⟩ := sourced.swapped j n k _ found
    obtain ⟨u, v, atFirst, atSecond, index⟩ := opening.contents_of_built played built
    refine .inr ⟨n, a, b, u, v, built, atFirst, atSecond, index, fun without => ?_,
      fun without => ?_⟩
    · have same := opening.part_of_built played built Relations.assignments
        (fun _ _ _ => Relations.assignments_write_of_ne) without atFirst atSecond
      rw [index, same]
    · have same := opening.part_of_built played built Relations.grants
        (fun _ _ _ => Relations.grants_write_of_ne) without atFirst atSecond
      rw [index, ← same]

end Results

/-- Replica `b` asks for the grants. Then `a` takes the only grant back and assigns its role to
Alice, and `b` asks for the assignments. -/
def tornRebuild : List Turn :=
  let grant : Fact := .grant ⟨"viewer", "docs", "doc", "read"⟩
  [.begins 0 (.change .insert grant)] ++ List.replicate 10 (.goes 0) ++
  [.begins 1 .rebuild] ++ List.replicate 2 (.goes 1) ++
  [.begins 0 (.change .delete grant)] ++ List.replicate 10 (.goes 2) ++
  [.begins 0 (.change .insert (.assignment ⟨"alice", "viewer", "docs"⟩))] ++
  List.replicate 10 (.goes 3) ++ List.replicate 6 (.goes 1)

theorem indexOf_eq_contents_torn :
    ∃ t, (gathered 1 .empty (pair .empty)).play tornRebuild = some t ∧
      ∃ n a b u v,
        BuiltAt ((gathered 1 .empty (pair .empty)).chronicle tornRebuild) n 1 a b
          (t.fleet.indexOf 1) ∧
        (gathered 1 .empty (pair .empty)).play (tornRebuild.take a) = some u ∧
        (gathered 1 .empty (pair .empty)).play (tornRebuild.take b) = some v ∧
        t.fleet.indexOf 1 =
          Relations.index ⟨u.fleet.relations.grants, v.fleet.relations.assignments⟩ := by
  have course : ((gathered 1 .empty (pair .empty)).play tornRebuild).any (fun t =>
      decide (t.fleet.indexOf 1 ≠ (gathered 1 .empty (pair .empty)).fleet.indexOf 1)) = true := by
    decide +kernel
  obtain ⟨t, played, fits⟩ := (Option.any_eq_true _ _).mp course
  obtain ⟨n, a, b, u, v, built, first, second, index, -⟩ :=
    ((indexOf_eq_contents played).2 1).resolve_left fun ⟨_, same⟩ => of_decide_eq_true fits same
  exact ⟨t, played, n, a, b, u, v, built, first, second, index⟩

/-- Replica `b` serves an index that gives Alice a permission, although at no moment the content of
the store gave it to her. -/
theorem not_indexOf_eq_content :
    ∃ t, (gathered 1 .empty (pair .empty)).play tornRebuild = some t ∧
      (t.fleet.run 1 (Authority.permissions "alice" "docs")).1 = .ok ["doc#read"] ∧
      ∀ m ≤ tornRebuild.length, ∀ u,
        (gathered 1 .empty (pair .empty)).play (tornRebuild.take m) = some u →
        t.fleet.indexOf 1 ≠ u.fleet.relations.index ∧
        u.fleet.relations.index.permissionsOf "alice" "docs" = [] := by
  have course : ((gathered 1 .empty (pair .empty)).play tornRebuild).any (fun t =>
      decide ((t.fleet.run 1 (Authority.permissions "alice" "docs")).1 = .ok ["doc#read"] ∧
        ∀ m ≤ tornRebuild.length,
          ((gathered 1 .empty (pair .empty)).play (tornRebuild.take m)).all (fun u =>
            decide (t.fleet.indexOf 1 ≠ u.fleet.relations.index ∧
              u.fleet.relations.index.permissionsOf "alice" "docs" = [])) = true)) = true := by
    decide +kernel
  obtain ⟨t, played, fits⟩ := (Option.any_eq_true _ _).mp course
  obtain ⟨answer, moments⟩ := of_decide_eq_true fits
  refine ⟨t, played, answer, fun m inside u reached => ?_⟩
  have torn := moments m inside
  rw [reached, Option.all_some] at torn
  exact of_decide_eq_true torn

end Traffic

end Entitlement
