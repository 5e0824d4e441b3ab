import Entitlement.Proofs.AtRest
import Entitlement.Proofs.Course

/-!
# Chronicles

What happens in a run, turn by turn: a call is begun, or a call takes a step. The state of a run at
moment `m` is what its first `m` turns lead to, and the entry number `m` of its chronicle is what
happens at that moment. A chronicle says of each step which call takes it, so the course of a call
is part of the chronicle, and what a call is known to do is known of the chronicle.
-/

namespace Entitlement

open Function (update)

deriving instance DecidableEq for Outcome

/-- Why a call is begun: it is asked for, or a watcher hears a signal. -/
inductive Origin where
  | asked (errand : Errand)
  | heard (s : Signal)
deriving DecidableEq, Repr

def Origin.call (me : Profile) : Origin → Call Outcome
  | asked errand => errand.call me
  | heard s => do
    Replica.follow me.id s
    return .followed

/-- What holds of an attempt that succeeds holds of the call that serves it. -/
theorem Origin.abides_of_request {α : Type} {me : Profile} {r : Policy.Request}
    {attempt : Attempt α} {wrap : α → Policy.Response} {allowed : List Step → Step → Prop}
    {Q : List Step → α → Prop} (serves : r.call me = wrap <$> attempt)
    (abides : attempt.run.Abides allowed
      (fun course result => ∀ value, result = .ok value → Q course value) []) :
    ((Origin.asked (.request r)).call me).Abides allowed
      (fun course outcome => ∀ response, outcome = .served (.ok response) →
        ∃ value, Q course value ∧ response = wrap value) [] := by
  have wrapped : (wrap <$> attempt).run.Abides allowed
      (fun course result => ∀ response, result = .ok response →
        ∃ value, Q course value ∧ response = wrap value) [] := by
    refine Call.Abides.bind abides ?_
    intro course result holds
    cases result with
    | error cause => nofun
    | ok value =>
      rintro _ ⟨⟩
      exact ⟨value, holds value rfl, rfl⟩
  rw [call, Errand.call, serves]
  refine Call.Abides.bind wrapped ?_
  rintro course result holds response ⟨⟩
  exact holds response rfl

/-- Call number `n`, which is one of replica `k`, is begun or takes a step. -/
inductive Happening where
  | began (n k : Nat) (origin : Origin)
  | acted (n k : Nat) (step : Step)
deriving DecidableEq

def Happening.stepOf? (n : Nat) : Happening → Option Step
  | began .. => none
  | acted i _ step => if i = n then some step else none

def Happening.written? : Happening → Option (Change × Fact)
  | began .. => none
  | acted _ _ step => step.written?

theorem Happening.exists_of_written? {h : Happening} {change : Change} {fact : Fact}
    (writes : h.written? = some (change, fact)) :
    ∃ n k answer, h = .acted n k ⟨.write change fact, answer⟩ := by
  rcases h with _ | ⟨n, k, a, answer⟩
  · cases writes
  · cases a with
    | write c about =>
      obtain ⟨rfl, rfl⟩ := Prod.mk.inj (Option.some.inj writes)
      exact ⟨n, k, answer, rfl⟩
    | _ => cases writes

/-- What call number `n` has done so far. -/
def courseOf (n : Nat) (past : List Happening) : List Step :=
  past.filterMap (Happening.stepOf? n)

theorem mem_courseOf {n : Nat} {past : List Happening} {step : Step} :
    step ∈ courseOf n past ↔ ∃ k, .acted n k step ∈ past := by
  rw [courseOf, List.mem_filterMap]
  constructor
  · rintro ⟨_ | ⟨i, k, done⟩, member, found⟩
    · cases found
    · simp only [Happening.stepOf?, Option.ite_none_right_eq_some, Option.some.injEq] at found
      obtain ⟨rfl, rfl⟩ := found
      exact ⟨k, member⟩
  · rintro ⟨k, member⟩
    exact ⟨_, member, if_pos rfl⟩

theorem courseOf_append (n : Nat) (past later : List Happening) :
    courseOf n (past ++ later) = courseOf n past ++ courseOf n later :=
  List.filterMap_append

/-- The course of a call before and after one of its steps. -/
theorem courseOf_eq {n k m : Nat} {past : List Happening} {step : Step}
    (found : past[m]? = some (.acted n k step)) :
    courseOf n past = courseOf n (past.take m) ++ step :: courseOf n (past.drop (m + 1)) := by
  obtain ⟨inside, entry⟩ := List.getElem?_eq_some_iff.mp found
  conv_lhs => rw [← List.take_append_drop m past, List.drop_eq_getElem_cons inside, entry]
  simp [courseOf, List.filterMap_append, Happening.stepOf?]

theorem Fleet.registry_receive (subscription : Nat) (f : Fleet) :
    (f.receive subscription).2.registry = f.registry := by
  unfold receive
  dsimp only
  split <;> rfl

namespace Traffic

/-- What a turn amounts to. -/
def happening? : Turn → Traffic → Option Happening
  | .begins k errand, t => some (.began t.tasks.length k (.asked errand))
  | .goes n, t =>
    match t.tasks[n]? with
    | some ⟨k, _, .act a _⟩ => some (.acted n k ⟨a, (Fleet.handler k a t.fleet).1⟩)
    | _ => none
  | .hears w, t =>
    (t.fleet.receive w.subscription).1.signal?.map fun s =>
      .began t.tasks.length w.member (.heard s)

/-- Everything that happens when the turns are taken one after the other. -/
def chronicle : List Turn → Traffic → List Happening
  | [], _ => []
  | turn :: rest, t =>
    match t.happening? turn, t.take turn with
    | some h, some u => h :: chronicle rest u
    | _, _ => []

variable {t u : Traffic} {stands later : Nat → Stand} {turns : List Turn}

/-! ### Happenings -/

/-- The traffic `u` is `t` with a new call of replica `k`. -/
structure Joins (t : Traffic) (k : Nat) (origin : Origin) (me : Profile) (u : Traffic) : Prop where
  present : t.fleet.profile? k = some me
  kept : Fleet.Keeps t.fleet t.fleet.relations u.fleet
  registry : u.fleet.registry = t.fleet.registry
  locked : u.locked = t.locked
  tasks : ∃ watcher, u.tasks = t.tasks ++ [⟨k, watcher, origin.call me⟩]

/-- What happens in a turn, with the stands of the calls before and after it. -/
inductive Happens (t : Traffic) (stands : Nat → Stand) :
    Happening → Traffic → (Nat → Stand) → Prop
  | began {k : Nat} {origin : Origin} {me : Profile} {stand : Stand} {u : Traffic}
      (joins : t.Joins k origin me u) (stage : stand.stage = .idle ∨ stand.stage = .due) :
      Happens t stands (.began t.tasks.length k origin) u (update stands t.tasks.length stand)
  | acted {n k : Nat} {a : Action} {answer : a.Answer} {me : Profile} {old new : Task}
      {stand : Stand} {next : a.Answer → Call Outcome} {u : Traffic}
      (goes : t.Goes stands n a me old new stand u) (member : old.member = k)
      (answered : (Fleet.handler k a t.fleet).1 = answer) (rest : old.rest = .act a next)
      (left : new.rest = next answer) :
      Happens t stands (.acted n k ⟨a, answer⟩) u (update stands n stand)

/-- Something happens in every turn that can be taken. -/
theorem Obedient.happens (obedient : t.Obedient stands) {turn : Turn}
    (taken : t.take turn = some u) :
    ∃ h later, t.happening? turn = some h ∧ t.Happens stands h u later ∧ u.Obedient later := by
  cases turn with
  | begins k errand =>
    obtain ⟨me, present, rfl, obeys⟩ := obedient.begins_cases taken
    have joins : t.Joins k (.asked errand) me
        { t with tasks := t.tasks ++ [⟨k, none, errand.call me⟩] } :=
      { present, kept := .refl t.fleet, registry := rfl, locked := rfl, tasks := ⟨none, rfl⟩ }
    exact ⟨_, _, rfl, .began joins (.inl rfl), obeys⟩
  | goes n =>
    obtain ⟨k, watcher, a, next, me, new, stand, left, goes, obeys⟩ := obedient.goes_cases taken
    have happening : t.happening? (.goes n) =
        some (.acted n k ⟨a, (Fleet.handler k a t.fleet).1⟩) := by
      rw [happening?, goes.found]
    exact ⟨_, _, happening, .acted goes rfl rfl rfl left, obeys⟩
  | hears w =>
    obtain ⟨s, me, signal, -, present, rfl, obeys⟩ := obedient.hears_cases taken
    have joins : t.Joins w.member (.heard s) me
        { t with
          fleet := (t.fleet.receive w.subscription).2
          tasks := t.tasks ++
            [⟨w.member, some w, do Replica.follow me.id s; return .followed⟩] } :=
      { present, kept := Fleet.keeps_receive _ _, registry := Fleet.registry_receive _ _,
        locked := rfl, tasks := ⟨some w, rfl⟩ }
    have happening : t.happening? (.hears w) =
        some (.began t.tasks.length w.member (.heard s)) := by
      rw [happening?, signal]
      rfl
    refine ⟨_, _, happening, .began joins ?_, obeys⟩
    dsimp only
    split
    · exact .inl rfl
    · exact .inr rfl

theorem Exclusive.happens (exclusive : t.Exclusive stands) {h : Happening}
    (happens : t.Happens stands h u later) : u.Exclusive later := by
  cases happens with
  | began joins stage =>
    obtain ⟨watcher, tasks⟩ := joins.tasks
    refine exclusive.added joins.locked tasks ?_
    rcases stage with idle | due
    · rw [idle]; rfl
    · rw [due]; rfl
  | acted goes => exact exclusive.moves (.gone goes)

/-! ### Moments -/

/-- What everything that happens keeps, every run keeps. -/
theorem exists_of_chronicle {I : List Happening → Traffic → (Nat → Stand) → Prop}
    (keeps : ∀ {past : List Happening} {t u : Traffic} {stands later : Nat → Stand}
      {h : Happening}, I past t stands → t.Happens stands h u later → I (past ++ [h]) u later)
    (past : List Happening) (start : I past t stands) (obedient : t.Obedient stands)
    (played : t.play turns = some u) :
    ∃ later, I (past ++ t.chronicle turns) u later ∧ u.Obedient later := by
  induction turns generalizing t stands past with
  | nil =>
    obtain rfl := Option.some.inj played
    exact ⟨stands, by simpa [chronicle] using start, obedient⟩
  | cons turn rest ih =>
    obtain ⟨next, taken, goesOn⟩ := Option.bind_eq_some_iff.mp played
    obtain ⟨h, between, happening, happens, obeys⟩ := obedient.happens taken
    have entries : past ++ t.chronicle (turn :: rest) = (past ++ [h]) ++ next.chronicle rest := by
      rw [chronicle, happening, taken]
      simp
    rw [entries]
    exact ih _ (keeps start happens) obeys goesOn

theorem play_append (first second : List Turn) (t : Traffic) :
    t.play (first ++ second) = (t.play first).bind (play second) := by
  induction first generalizing t with
  | nil => rfl
  | cons turn rest ih =>
    rw [List.cons_append, play, play, Option.bind_assoc]
    congr
    funext next
    exact ih next

/-- A run has a state at each of its moments. -/
theorem exists_moment (played : t.play turns = some u) (m : Nat) :
    ∃ v, t.play (turns.take m) = some v ∧ v.play (turns.drop m) = some u := by
  rw [← List.take_append_drop m turns, play_append] at played
  exact Option.bind_eq_some_iff.mp played

theorem chronicle_take (turns : List Turn) (m : Nat) (t : Traffic) :
    t.chronicle (turns.take m) = (t.chronicle turns).take m := by
  induction turns generalizing t m with
  | nil => simp [chronicle]
  | cons turn rest ih =>
    cases m with
    | zero => simp [chronicle]
    | succ m =>
      simp only [List.take_succ_cons, chronicle]
      split
      · rw [ih, List.take_succ_cons]
      · rfl

theorem length_chronicle (obedient : t.Obedient stands) (played : t.play turns = some u) :
    (t.chronicle turns).length = turns.length := by
  induction turns generalizing t stands with
  | nil => rfl
  | cons turn rest ih =>
    obtain ⟨next, taken, goesOn⟩ := Option.bind_eq_some_iff.mp played
    obtain ⟨h, between, happening, -, obeys⟩ := obedient.happens taken
    rw [chronicle, happening, taken, List.length_cons, List.length_cons, ih obeys goesOn]

/-- What the chronicle says of a moment happened between the state at the moment and the next. -/
theorem happens_of_chronicle (obedient : t.Obedient stands) (played : t.play turns = some u)
    {m : Nat} {h : Happening} (found : (t.chronicle turns)[m]? = some h) :
    ∃ v w before after, t.play (turns.take m) = some v ∧ t.play (turns.take (m + 1)) = some w ∧
      v.Happens before h w after := by
  induction turns generalizing t m stands with
  | nil => cases found
  | cons turn rest ih =>
    obtain ⟨next, taken, goesOn⟩ := Option.bind_eq_some_iff.mp played
    obtain ⟨first, between, happening, happens, obeys⟩ := obedient.happens taken
    have reaches (some : List Turn) : t.play (turn :: some) = next.play some := by
      rw [play, taken]
      rfl
    rw [chronicle, happening, taken] at found
    cases m with
    | zero =>
      obtain rfl := Option.some.inj found
      exact ⟨t, next, stands, between, rfl, reaches [], happens⟩
    | succ m =>
      obtain ⟨v, w, before, after, one, two, step⟩ := ih obeys goesOn found
      exact ⟨v, w, before, after, (reaches _).trans one, (reaches _).trans two, step⟩

/-- What everything that happens between two moments keeps goes on. -/
theorem of_span {P : Traffic → Prop} {i j : Nat} {v w : Traffic} (obedient : t.Obedient stands)
    (played : t.play turns = some u) (ordered : i ≤ j)
    (keeps : ∀ m h x y before after, i ≤ m → m < j → (t.chronicle turns)[m]? = some h →
      t.play (turns.take (m + 1)) = some y → x.Happens before h y after → P x → P y)
    (first : t.play (turns.take i) = some v) (last : t.play (turns.take j) = some w)
    (holds : P v) : P w := by
  induction j, ordered using Nat.le_induction generalizing w with
  | base =>
    obtain rfl := Option.some.inj (first.symm.trans last)
    exact holds
  | succ j ordered ih =>
    obtain ⟨x, reached, -⟩ := exists_moment played j
    have kept : P x := ih (fun m h x y before after from_ inside =>
      keeps m h x y before after from_ (by omega)) reached
    cases found : (t.chronicle turns)[j]? with
    -- The run is over.
    | none =>
      rw [List.getElem?_eq_none_iff, length_chronicle obedient played] at found
      rw [List.take_of_length_le found] at reached
      rw [List.take_of_length_le (by omega), reached] at last
      obtain rfl := Option.some.inj last
      exact kept
    | some h =>
      obtain ⟨y, z, before, after, one, two, happens⟩ := happens_of_chronicle obedient played found
      obtain rfl := Option.some.inj (reached.symm.trans one)
      obtain rfl := Option.some.inj (last.symm.trans two)
      exact keeps j h x w before after ordered (Nat.lt_succ_self j) found two happens kept

/-! ### The content of the store -/

theorem Happens.honest {h : Happening} (happens : t.Happens stands h u later)
    (honest : t.fleet.rigged = none) : u.fleet.rigged = none := by
  cases happens with
  | began joins => exact joins.kept.rigged.trans honest
  | @acted n k a answer me old new stand next u goes =>
    obtain ⟨watchers, fleet⟩ := goes.exists_fleet
    rw [fleet]
    exact (Fleet.framed_handler old.member a t.fleet).rigged.trans honest

/-- Only a write changes the content, if anything does. -/
theorem Happens.relations_cases {h : Happening} (happens : t.Happens stands h u later) :
    u.fleet.relations = t.fleet.relations ∨
      ∃ change fact, h.written? = some (change, fact) ∧
        u.fleet.relations = t.fleet.relations.write change fact := by
  cases happens with
  | began joins => exact .inl joins.kept.relations
  | @acted n k a answer me old new stand next u goes =>
    obtain ⟨watchers, fleet⟩ := goes.exists_fleet
    by_cases writes : ∃ change fact, a = .write change fact
    · obtain ⟨change, fact, rfl⟩ := writes
      rw [fleet]
      rcases Fleet.relations_of_write change fact t.fleet with relations | relations
      · exact .inl relations
      · exact .inr ⟨change, fact, rfl, relations⟩
    · rw [fleet]
      exact .inl (Fleet.handler_relations _ fun change fact same => writes ⟨change, fact, same⟩)

theorem Happens.relations_of_accepted {n k : Nat} {change : Change} {fact : Fact}
    (happens : t.Happens stands (.acted n k ⟨.write change fact, .ok ()⟩) u later) :
    u.fleet.relations = t.fleet.relations.write change fact := by
  cases happens with
  | acted goes member answered =>
    obtain ⟨watchers, fleet⟩ := goes.exists_fleet
    rw [fleet]
    rcases Fleet.write_cases change fact t.fleet with ⟨-, relations⟩ | ⟨effect, -, refused, -⟩
    · exact relations
    · cases answered.symm.trans refused

theorem Happens.answer_of_query {n k : Nat} {pattern : FactPattern} {facts : List Fact}
    (happens : t.Happens stands (.acted n k ⟨.query pattern, .ok facts⟩) u later)
    (honest : t.fleet.rigged = none) : facts = t.fleet.relations.query pattern := by
  cases happens with
  | acted goes member answered =>
    rcases Fleet.query_cases honest pattern with answer | ⟨effect, -, refused⟩
    · exact Except.ok.inj (answered.symm.trans answer)
    · cases answered.symm.trans refused

theorem Happens.answer_of_read {n k : Nat} {index : Index}
    (happens : t.Happens stands (.acted n k ⟨.readIndex, index⟩) u later) :
    index = t.fleet.indexOf k := by
  cases happens with
  | acted goes member answered => exact answered.symm

/-- Whatever no write between two moments ends goes on. -/
theorem relations_of_span {P : Relations → Prop} {i j : Nat} {v w : Traffic}
    (obedient : t.Obedient stands) (played : t.play turns = some u) (ordered : i ≤ j)
    (keeps : ∀ m h change fact, i ≤ m → m < j → (t.chronicle turns)[m]? = some h →
      h.written? = some (change, fact) → ∀ r, P r → P (r.write change fact))
    (first : t.play (turns.take i) = some v) (last : t.play (turns.take j) = some w)
    (holds : P v.fleet.relations) : P w.fleet.relations := by
  refine of_span (P := fun v => P v.fleet.relations) obedient played ordered ?_ first last holds
  intro m h x y before after from_ inside found _ happens kept
  rcases happens.relations_cases with same | ⟨change, fact, writes, changed⟩
  · rwa [same]
  · rw [changed]
    exact keeps m h change fact from_ inside found writes _ kept

/-- The store holds the fact at the moment. -/
def StoredAt (t : Traffic) (turns : List Turn) (i : Nat) (fact : Fact) : Prop :=
  ∃ u, t.play (turns.take i) = some u ∧ u.fleet.relations.Holds fact

theorem storedAt_iff {i : Nat} {fact : Fact} (reached : t.play (turns.take i) = some u) :
    t.StoredAt turns i fact ↔ u.fleet.relations.Holds fact := by
  constructor
  · rintro ⟨v, same, holds⟩
    obtain rfl := Option.some.inj (same.symm.trans reached)
    exact holds
  · exact fun holds => ⟨u, reached, holds⟩

/-- A fact stays as it was written until a write of the opposite takes effect. -/
theorem storedAt_of_span {change : Change} {fact : Fact} {i j : Nat}
    (obedient : t.Obedient stands) (played : t.play turns = some u) (ordered : i ≤ j)
    (unopposed : ∀ m h other, i ≤ m → m < j → (t.chronicle turns)[m]? = some h →
      h.written? = some (other, fact) → (t.StoredAt turns (m + 1) fact ↔ other = .insert) →
      other = change)
    (written : t.StoredAt turns i fact ↔ change = .insert) :
    t.StoredAt turns j fact ↔ change = .insert := by
  obtain ⟨v, first, -⟩ := exists_moment played i
  obtain ⟨w, last, -⟩ := exists_moment played j
  rw [storedAt_iff first] at written
  rw [storedAt_iff last]
  refine of_span (P := fun v => v.fleet.relations.Holds fact ↔ change = .insert) obedient played
    ordered ?_ first last written
  intro m h x y before after from_ inside found reached happens kept
  rcases happens.relations_cases with same | ⟨other, about, writes, changed⟩
  · rwa [same]
  · by_cases same : about = fact
    · subst same
      have takesEffect : y.fleet.relations.Holds about ↔ other = .insert := by
        rw [changed]
        exact Relations.holds_write_self
      rw [takesEffect, unopposed m h other from_ inside found writes
        ((storedAt_iff reached).trans takesEffect)]
    · rw [changed, Relations.holds_write_of_ne (Ne.symm same)]
      exact kept

/-! ### Courses -/

/-- The chronicle knows every call, and what is left of a call abides by everything that the whole
call abides by. -/
structure Recorded (past : List Happening) (t : Traffic) : Prop where
  known : ∀ n < t.tasks.length, ∃ k origin, .began n k origin ∈ past
  once : ∀ n j k one two, .began n j one ∈ past → .began n k two ∈ past → one = two
  acted : ∀ n k step, .acted n k step ∈ past → ∃ task, t.tasks[n]? = some task ∧ task.member = k
  abides : ∀ n k origin, .began n k origin ∈ past →
    ∃ task me, t.tasks[n]? = some task ∧ task.member = k ∧
      ∀ allowed ends, (origin.call me).Abides allowed ends [] →
        task.rest.Abides allowed ends (courseOf n past)

theorem Recorded.joined {past : List Happening} (recorded : Recorded past t) {k : Nat}
    {origin : Origin} {me : Profile} (joins : t.Joins k origin me u) :
    Recorded (past ++ [.began t.tasks.length k origin]) u := by
  obtain ⟨watcher, tasks⟩ := joins.tasks
  have kept {n : Nat} {task : Task} (found : t.tasks[n]? = some task) :
      u.tasks[n]? = some task := by
    rw [tasks, getElem?_concat]
    exact .inl found
  have same (n : Nat) :
      courseOf n (past ++ [.began t.tasks.length k origin]) = courseOf n past := by
    rw [courseOf_append]
    exact List.append_nil _
  constructor
  case known =>
    intro n inside
    rw [tasks, List.length_append, List.length_singleton] at inside
    rcases Nat.lt_succ_iff_lt_or_eq.mp inside with old | rfl
    · obtain ⟨k, origin, member⟩ := recorded.known n old
      exact ⟨k, origin, List.mem_append_left _ member⟩
    · exact ⟨k, origin, List.mem_append_right _ List.mem_cons_self⟩
  case once =>
    -- An old call has a number below the number of the new one.
    have old {n j : Nat} {other : Origin} (member : .began n j other ∈ past) :
        n ≠ t.tasks.length := by
      obtain ⟨task, me, found, -⟩ := recorded.abides n j other member
      exact (List.getElem?_eq_some_iff.mp found).1.ne
    intro n i j one two first second
    rcases List.mem_append.mp first with before | now
    · rcases List.mem_append.mp second with before' | now'
      · exact recorded.once n i j one two before before'
      · exact absurd (Happening.began.inj (List.mem_singleton.mp now')).1 (old before)
    · have new := Happening.began.inj (List.mem_singleton.mp now)
      rcases List.mem_append.mp second with before' | now'
      · exact absurd new.1 (old before')
      · exact new.2.2.trans (Happening.began.inj (List.mem_singleton.mp now')).2.2.symm
  case acted =>
    intro n j step member
    rcases List.mem_append.mp member with old | new
    · obtain ⟨task, found, own⟩ := recorded.acted n j step old
      exact ⟨task, kept found, own⟩
    · cases List.mem_singleton.mp new
  case abides =>
    intro n j other member
    rw [same]
    rcases List.mem_append.mp member with old | new
    · obtain ⟨task, me, found, own, left⟩ := recorded.abides n j other old
      exact ⟨task, me, kept found, own, left⟩
    · obtain ⟨rfl, rfl, rfl⟩ := Happening.began.inj (List.mem_singleton.mp new)
      have fresh : courseOf t.tasks.length past = [] := by
        refine List.eq_nil_iff_forall_not_mem.mpr fun step done => ?_
        obtain ⟨j, member⟩ := mem_courseOf.mp done
        obtain ⟨task, found, -⟩ := recorded.acted _ j step member
        exact (List.getElem?_eq_some_iff.mp found).1.false
      refine ⟨⟨j, watcher, other.call me⟩, me, ?_, rfl, fun allowed ends abides => ?_⟩
      · rw [tasks, getElem?_concat]
        exact .inr ⟨rfl, rfl⟩
      · rwa [fresh]

theorem Recorded.stepped {past : List Happening} (recorded : Recorded past t) {n k : Nat}
    {a : Action} {answer : a.Answer} {me : Profile} {old new : Task} {stand : Stand}
    {next : a.Answer → Call Outcome} (goes : t.Goes stands n a me old new stand u)
    (member : old.member = k) (rest : old.rest = .act a next) (left : new.rest = next answer) :
    Recorded (past ++ [.acted n k ⟨a, answer⟩]) u := by
  have after : u.tasks[n]? = some new := goes.after.1
  have kept {i : Nat} (apart : i ≠ n) : u.tasks[i]? = t.tasks[i]? := by
    rw [goes.tasks, List.getElem?_set_ne (Ne.symm apart)]
  have begun {i j : Nat} {origin : Origin}
      (member : .began i j origin ∈ past ++ [.acted n k ⟨a, answer⟩]) :
      .began i j origin ∈ past := by
    rcases List.mem_append.mp member with before | now
    · exact before
    · cases List.mem_singleton.mp now
  constructor
  case known =>
    intro i inside
    rw [goes.tasks, List.length_set] at inside
    obtain ⟨j, origin, member⟩ := recorded.known i inside
    exact ⟨j, origin, List.mem_append_left _ member⟩
  case once =>
    intro i j l one two first second
    exact recorded.once i j l one two (begun first) (begun second)
  case acted =>
    intro i j step done
    by_cases same : i = n
    · subst same
      refine ⟨new, after, goes.member.trans ?_⟩
      rcases List.mem_append.mp done with before | now
      · obtain ⟨task, found, own⟩ := recorded.acted i j step before
        obtain rfl := Option.some.inj (goes.found.symm.trans found)
        exact own
      · obtain ⟨-, rfl, -⟩ := Happening.acted.inj (List.mem_singleton.mp now)
        exact member
    · rw [kept same]
      rcases List.mem_append.mp done with before | now
      · exact recorded.acted i j step before
      · exact absurd (Happening.acted.inj (List.mem_singleton.mp now)).1 same
  case abides =>
    intro i j origin entered
    obtain ⟨task, author, found, own, abides⟩ := recorded.abides i j origin (begun entered)
    rw [courseOf_append]
    by_cases same : i = n
    · subst same
      obtain rfl := Option.some.inj (goes.found.symm.trans found)
      refine ⟨new, author, after, goes.member.trans own, fun allowed ends whole => ?_⟩
      have goesOn := abides allowed ends whole
      rw [rest] at goesOn
      rw [left]
      simpa [courseOf, Happening.stepOf?] using (goesOn answer).2
    · refine ⟨task, author, (kept same).trans found, own, fun allowed ends whole => ?_⟩
      simpa [courseOf, Happening.stepOf?, Ne.symm same] using abides allowed ends whole

theorem Recorded.happens {past : List Happening} (recorded : Recorded past t) {h : Happening}
    (happens : t.Happens stands h u later) : Recorded (past ++ [h]) u := by
  cases happens with
  | began joins => exact recorded.joined joins
  | acted goes member answered rest left => exact recorded.stepped goes member rest left

/-- A step that a call of replica `k` has taken before moment `d` has a moment of its own. -/
theorem Recorded.exists_moment {past : List Happening} (recorded : Recorded past t) {n k d : Nat}
    {origin : Origin} {step : Step} (begun : .began n k origin ∈ past)
    (member : step ∈ courseOf n (past.take d)) :
    ∃ m < d, past[m]? = some (.acted n k step) := by
  obtain ⟨j, acted⟩ := mem_courseOf.mp member
  obtain ⟨m, found⟩ := List.mem_iff_getElem?.mp acted
  rw [List.getElem?_take, Option.ite_none_right_eq_some] at found
  obtain ⟨before, entry⟩ := found
  -- All steps of a call are steps of one replica.
  obtain ⟨task, here, own⟩ := recorded.acted n j step (List.mem_of_getElem? entry)
  obtain ⟨other, me, there, own', -⟩ := recorded.abides n k origin begun
  obtain rfl := Option.some.inj (here.symm.trans there)
  obtain rfl := own.symm.trans own'
  exact ⟨m, before, entry⟩

theorem Recorded.exists_entry {past : List Happening} (recorded : Recorded past t) {n k : Nat}
    {origin : Origin} {step : Step} (begun : .began n k origin ∈ past)
    (member : step ∈ courseOf n past) : ∃ m : Nat, past[m]? = some (.acted n k step) := by
  rw [← List.take_length (l := past)] at member
  obtain ⟨m, -, entry⟩ := recorded.exists_moment begun member
  exact ⟨m, entry⟩

/-- The outcome of a call that is done. -/
def outcomeOf? (n : Nat) (t : Traffic) : Option Outcome := t.tasks[n]?.bind Task.outcome?

theorem Recorded.ends {past : List Happening} (recorded : Recorded past t) {n k : Nat}
    {origin : Origin} {allowed : List Step → Step → Prop} {ends : List Step → Outcome → Prop}
    {outcome : Outcome} (begun : .began n k origin ∈ past)
    (abides : ∀ me, (origin.call me).Abides allowed ends [])
    (ended : t.outcomeOf? n = some outcome) : ends (courseOf n past) outcome := by
  obtain ⟨task, me, found, -, left⟩ := recorded.abides n k origin begun
  have goesOn := left allowed ends (abides me)
  rw [outcomeOf?, found, Option.bind_some, Task.outcome?] at ended
  split at ended
  · next value finished =>
    obtain rfl := Option.some.inj ended
    rw [finished] at goesOn
    exact goesOn
  · cases ended

/-! ### Whole runs -/

/-- Nothing has happened yet, and the store answers queries with its content. -/
structure Opening (t : Traffic) : Prop where
  idle : t.tasks = []
  honest : t.fleet.rigged = none

theorem opening_gathered {capacity : Nat} {relations : Relations} {replicas : List Member}
    {storeFaults : List (Fault Occasion StoreEffect)}
    {signalFaults : List (Fault Occasion SignalFailure)} :
    (gathered capacity relations replicas storeFaults signalFaults).Opening := ⟨rfl, rfl⟩

namespace Opening

variable {start : Traffic}

theorem not_at (opening : start.Opening) {n : Nat} {task : Task} {st : Stand} :
    ¬ start.At stands n task st := by
  rintro ⟨found, -⟩
  rw [opening.idle] at found
  cases found

theorem obedient (opening : start.Opening) : start.Obedient fun _ => .rest :=
  fun _ _ _ entry => (opening.not_at entry).elim

theorem exclusive (opening : start.Opening) : start.Exclusive fun _ => .rest :=
  ⟨fun _ _ _ entry => (opening.not_at entry).elim,
    fun _ _ _ _ _ _ entry => (opening.not_at entry).elim⟩

theorem recorded (opening : start.Opening) (played : start.play turns = some t) :
    Recorded (start.chronicle turns) t := by
  have nothing : Recorded [] start :=
    { known := fun n inside => by
        rw [opening.idle] at inside
        exact absurd inside (Nat.not_lt_zero n)
      once := fun _ _ _ _ _ member => absurd member List.not_mem_nil
      acted := fun _ _ _ member => absurd member List.not_mem_nil
      abides := fun _ _ _ member => absurd member List.not_mem_nil }
  obtain ⟨later, recorded, -⟩ := exists_of_chronicle (I := fun past t _ => Recorded past t)
    (fun recorded happens => recorded.happens happens) [] nothing opening.obedient played
  exact recorded

theorem honest_of_play (opening : start.Opening) (played : start.play turns = some t) :
    t.fleet.rigged = none := by
  obtain ⟨later, honest, -⟩ := exists_of_chronicle (I := fun _ t _ => t.fleet.rigged = none)
    (fun honest happens => happens.honest honest) [] opening.honest opening.obedient played
  exact honest

/-- Every step that a chronicle tells of is one that its call may take. -/
theorem allowed (opening : start.Opening) (played : start.play turns = some t) {m n j k : Nat}
    {origin : Origin} {step : Step} {rule : List Step → Step → Prop}
    {ends : List Step → Outcome → Prop} (begun : .began n j origin ∈ start.chronicle turns)
    (abides : ∀ me, (origin.call me).Abides rule ends [])
    (found : (start.chronicle turns)[m]? = some (.acted n k step)) :
    rule (courseOf n ((start.chronicle turns).take m)) step := by
  obtain ⟨v, w, before, after, reached, -, happens⟩ :=
    happens_of_chronicle opening.obedient played found
  have recorded := opening.recorded reached
  rw [chronicle_take] at recorded
  cases happens with
  | acted goes member answered rest left =>
    obtain ⟨i, other, known⟩ := recorded.known n (List.getElem?_eq_some_iff.mp goes.found).1
    obtain rfl := (opening.recorded played).once n j i origin other begun
      (List.mem_of_mem_take known)
    obtain ⟨task, me, here, -, goesOn⟩ := recorded.abides n i origin known
    obtain rfl := Option.some.inj (goes.found.symm.trans here)
    have whole := goesOn rule ends (abides me)
    rw [rest] at whole
    exact (whole _).1

/-- A write that is not refused has taken effect. -/
theorem storedAt_of_accepted (opening : start.Opening) (played : start.play turns = some t)
    {n k w : Nat} {change : Change} {fact : Fact}
    (wrote : (start.chronicle turns)[w]? = some (.acted n k ⟨.write change fact, .ok ()⟩)) :
    start.StoredAt turns (w + 1) fact ↔ change = .insert := by
  obtain ⟨v, u, before, after, -, reached, happens⟩ :=
    happens_of_chronicle opening.obedient played wrote
  rw [storedAt_iff reached, happens.relations_of_accepted]
  exact Relations.holds_write_self

end Opening

end Traffic

end Entitlement
