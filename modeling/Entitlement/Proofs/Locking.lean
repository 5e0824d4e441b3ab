import Entitlement.Proofs.Effect

/-!
# Turns and stands

A turn moves the stand of one call and leaves the stands of the others. The stands also say who
holds which lock: at most one call of a replica at a time, so what a rebuild has in hand is out of
reach for the other rebuilds of its replica.
-/

namespace Entitlement

open Function (update)

theorem getElem?_concat {α : Type} {past : List α} {new a : α} {i : Nat} :
    (past ++ [new])[i]? = some a ↔ past[i]? = some a ∨ i = past.length ∧ new = a := by
  rcases lt_trichotomy i past.length with before | rfl | beyond
  · simp [List.getElem?_append_left before, before.ne]
  · simp
  · have missing : past[i]? = none := List.getElem?_eq_none beyond.le
    have missingStill : (past ++ [new])[i]? = none := by
      rw [List.getElem?_eq_none_iff, List.length_append]
      exact beyond
    simp [missing, missingStill, beyond.ne']

def Fleet.profile? (k : Nat) (f : Fleet) : Option Profile := (f.member? k).map (·.profile)

namespace Lawful

variable {id : String} {a : Action} {answer : a.Answer} {st later : Stand}

/-- Only taking a lock makes a call hold it, and a call that gives it back does not. -/
theorem holds_cases (lawful : Lawful id st a answer later) (holds : later.stage.holds = true) :
    (st.stage.holds = true ∧ a ≠ .releaseLock) ∨ (a = .acquireLock ∧ later.stage = .begun) := by
  cases lawful with
  | silent _ _ silent =>
    refine .inl ⟨holds, ?_⟩
    rintro rfl
    exact silent
  | locked => exact .inr ⟨rfl, rfl⟩
  | asked | built | swapped | succeeded | failed => exact .inl ⟨rfl, nofun⟩
  | stopped asking =>
    rcases asking with rfl | ⟨grants, rfl⟩ <;> exact .inl ⟨rfl, nofun⟩
  | written | refused | released | told | opened | unopened | closed => cases holds

/-- A call that held the lock and holds it no more is through with its rebuild. -/
theorem idle_of_holds (lawful : Lawful id st a answer later) (holds : st.stage.holds = true)
    (free : later.stage.holds = false) : later.stage = .idle := by
  cases lawful with
  | silent => cases holds.symm.trans free
  | released => rfl
  | locked | asked | built | stopped | swapped | succeeded | failed => cases free
  | written | refused | told | opened | unopened | closed => cases holds

theorem holds_of_release {answer : Action.Answer .releaseLock}
    (lawful : Lawful id st .releaseLock answer later) : st.stage.holds = true := by
  cases lawful with
  | silent _ _ silent => exact silent.elim
  | released => rfl

end Lawful

namespace Task

theorem leave_eq (task : Task) (f : Fleet) :
    ∃ watchers, task.leave f = { f with watchers } := by
  unfold leave
  split <;> exact ⟨_, rfl⟩

/-- Only a call that has opened a subscription leaves a watcher behind. -/
theorem mem_watchers_leave {task : Task} {f : Fleet} {w : Watcher}
    (watching : w ∈ (task.leave f).watchers) :
    w ∈ f.watchers ∨
      task.member = w.member ∧ task.outcome? = some (.watched (.ok w.subscription)) := by
  unfold leave at watching
  split at watching
  · next subscription ended =>
    rcases List.mem_append.mp watching with old | new
    · exact .inl old
    · rw [List.mem_singleton.mp new]
      exact .inr ⟨rfl, ended⟩
  · exact .inl watching

end Task

namespace Traffic

variable {t u : Traffic} {stands later : Nat → Stand}

/-- Call number `n` is `task`, and it stands at `st`. -/
def At (t : Traffic) (stands : Nat → Stand) (n : Nat) (task : Task) (st : Stand) : Prop :=
  t.tasks[n]? = some task ∧ stands n = st

theorem at_added {n : Nat} {task new : Task} {st stand : Stand}
    (added : u.tasks = t.tasks ++ [new]) :
    u.At (update stands t.tasks.length stand) n task st ↔
      t.At stands n task st ∨ n = t.tasks.length ∧ new = task ∧ stand = st := by
  unfold At
  rw [added, getElem?_concat]
  by_cases last : n = t.tasks.length
  · subst last
    simp
  · simp [last]

theorem at_set {n i : Nat} {old task new : Task} {st stand : Stand}
    (found : t.tasks[n]? = some old) (replaced : u.tasks = t.tasks.set n new) :
    u.At (update stands n stand) i task st ↔
      i ≠ n ∧ t.At stands i task st ∨ i = n ∧ new = task ∧ stand = st := by
  unfold At
  rw [replaced]
  by_cases same : i = n
  · subst same
    simp [(List.getElem?_eq_some_iff.mp found).1]
  · simp [same, List.getElem?_set_ne (Ne.symm same)]

/-! ### Turns -/

/-- Call number `n`, of which there was `old`, performs an action of its replica. The action moves
its stand by the rule, and `new` is left of the call. -/
structure Goes (t : Traffic) (stands : Nat → Stand) (n : Nat) (a : Action) (me : Profile)
    (old new : Task) (stand : Stand) (u : Traffic) : Prop where
  found : t.tasks[n]? = some old
  unfinished : old.outcome? = none
  member : new.member = old.member
  present : t.fleet.profile? old.member = some me
  free : a = .acquireLock → old.member ∉ t.locked
  lawful : Lawful me.id (stands n) a (Fleet.handler old.member a t.fleet).1 stand
  fleet : u.fleet = new.leave (Fleet.handler old.member a t.fleet).2
  locked : u.locked = lockedAfter old.member t.locked a
  tasks : u.tasks = t.tasks.set n new

/-- What a turn does, with the stands of the calls before and after it. -/
inductive Moves (t : Traffic) (stands : Nat → Stand) : Traffic → (Nat → Stand) → Prop
  | begun {me : Profile} (task : Task) (present : t.fleet.profile? task.member = some me) :
      Moves t stands { t with tasks := t.tasks ++ [task] } (update stands t.tasks.length .rest)
  | heard {me : Profile} {w : Watcher} {s : Signal} (task : Task) (member : task.member = w.member)
      (present : t.fleet.profile? w.member = some me) (watching : w ∈ t.fleet.watchers)
      (signal : (t.fleet.receive w.subscription).1.signal? = some s) :
      Moves t stands
        { t with fleet := (t.fleet.receive w.subscription).2, tasks := t.tasks ++ [task] }
        (update stands t.tasks.length { stage := if s.origin = me.id then .idle else .due })
  | gone {n : Nat} {a : Action} {me : Profile} {old new : Task} {stand : Stand} {u : Traffic}
      (goes : t.Goes stands n a me old new stand u) : Moves t stands u (update stands n stand)

section Goes

variable {n i : Nat} {a : Action} {me : Profile} {old new task : Task} {stand st : Stand}

theorem Goes.before (goes : t.Goes stands n a me old new stand u) :
    t.At stands n old (stands n) :=
  ⟨goes.found, rfl⟩

theorem Goes.at_iff (goes : t.Goes stands n a me old new stand u) :
    u.At (update stands n stand) i task st ↔
      i ≠ n ∧ t.At stands i task st ∨ i = n ∧ new = task ∧ stand = st :=
  at_set goes.found goes.tasks

theorem Goes.after (goes : t.Goes stands n a me old new stand u) :
    u.At (update stands n stand) n new stand :=
  goes.at_iff.mpr (.inr ⟨rfl, rfl, rfl⟩)

theorem Goes.kept (goes : t.Goes stands n a me old new stand u) (apart : i ≠ n)
    (entry : t.At stands i task st) : u.At (update stands n stand) i task st :=
  goes.at_iff.mpr (.inl ⟨apart, entry⟩)

/-- But for the watchers the fleet is as the action leaves it. -/
theorem Goes.exists_fleet (goes : t.Goes stands n a me old new stand u) :
    ∃ watchers, u.fleet = { (Fleet.handler old.member a t.fleet).2 with watchers } := by
  obtain ⟨watchers, left⟩ := new.leave_eq (Fleet.handler old.member a t.fleet).2
  exact ⟨watchers, goes.fleet.trans left⟩

end Goes

theorem profile?_receive (subscription k : Nat) (f : Fleet) :
    (f.receive subscription).2.profile? k = f.profile? k := by
  unfold Fleet.receive
  dsimp only
  split <;> rfl

/-- Nobody changes who a replica is. -/
theorem Moves.profile? (moves : t.Moves stands u later) (k : Nat) :
    u.fleet.profile? k = t.fleet.profile? k := by
  cases moves with
  | begun => rfl
  | heard => exact profile?_receive _ k _
  | gone goes =>
    obtain ⟨watchers, left⟩ := goes.exists_fleet
    rw [left]
    exact (Fleet.framed_handler _ _ t.fleet).profiles k

/-! ### Every call obeys the rule -/

/-- What is left of every call obeys the rule from where the call stands. -/
def Obedient (t : Traffic) (stands : Nat → Stand) : Prop :=
  ∀ n task st, t.At stands n task st → ∃ me, t.fleet.profile? task.member = some me ∧
    task.rest.Obeys me.id (fun st outcome => outcome.Leaves st) st

theorem Obedient.of_kept (obedient : t.Obedient stands) {n : Nat} {task : Task} {st : Stand}
    (kept : t.At stands n task st) (profiles : ∀ k, u.fleet.profile? k = t.fleet.profile? k) :
    ∃ me, u.fleet.profile? task.member = some me ∧
      task.rest.Obeys me.id (fun st outcome => outcome.Leaves st) st := by
  obtain ⟨me, present, obeys⟩ := obedient n task st kept
  exact ⟨me, (profiles _).trans present, obeys⟩

theorem Obedient.begins_cases (obedient : t.Obedient stands) {k : Nat} {errand : Errand}
    (taken : t.begins k errand = some u) :
    ∃ me, t.fleet.profile? k = some me ∧
      u = { t with tasks := t.tasks ++ [⟨k, none, errand.call me⟩] } ∧
      u.Obedient (update stands t.tasks.length .rest) := by
  obtain ⟨m, present, rfl⟩ := Option.map_eq_some_iff.mp taken
  have known : t.fleet.profile? k = some m.profile := by rw [Fleet.profile?, present]; rfl
  refine ⟨m.profile, known, rfl, fun n task st entry => ?_⟩
  rcases (at_added rfl).mp entry with kept | ⟨-, rfl, rfl⟩
  · exact obedient.of_kept kept fun _ => rfl
  · exact ⟨m.profile, known, errand.obeys m.profile⟩

theorem Obedient.begins (obedient : t.Obedient stands) {k : Nat} {errand : Errand}
    (taken : t.begins k errand = some u) :
    ∃ later, t.Moves stands u later ∧ u.Obedient later := by
  obtain ⟨me, present, rfl, obeys⟩ := obedient.begins_cases taken
  exact ⟨_, .begun ⟨k, none, errand.call me⟩ present, obeys⟩

theorem Obedient.hears_cases (obedient : t.Obedient stands) {w : Watcher}
    (taken : t.hears w = some u) :
    ∃ s me, (t.fleet.receive w.subscription).1.signal? = some s ∧ w ∈ t.fleet.watchers ∧
      t.fleet.profile? w.member = some me ∧
      u = { t with
        fleet := (t.fleet.receive w.subscription).2
        tasks := t.tasks ++
          [⟨w.member, some w, do Replica.follow me.id s; return .followed⟩] } ∧
      u.Obedient
        (update stands t.tasks.length { stage := if s.origin = me.id then .idle else .due }) := by
  unfold Traffic.hears at taken
  split at taken
  · cases taken
  · next allowed =>
    have watching : w ∈ t.fleet.watchers := by
      by_contra absent
      exact allowed (.inl absent)
    dsimp only at taken
    split at taken
    · next s m signal present =>
      obtain rfl := Option.some.inj taken
      have later : (t.fleet.receive w.subscription).2.profile? w.member = some m.profile := by
        rw [Fleet.profile?, present]
        rfl
      have known : t.fleet.profile? w.member = some m.profile :=
        (profile?_receive _ _ _).symm.trans later
      refine ⟨s, m.profile, signal, watching, known, rfl, fun n task st entry => ?_⟩
      rcases (at_added rfl).mp entry with kept | ⟨-, rfl, rfl⟩
      · exact obedient.of_kept kept fun k => profile?_receive _ k _
      · refine ⟨m.profile, later, ?_⟩
        exact Call.Obeys.bind (Replica.obeys_follow s) fun _ _ stands => stands
    · cases taken

theorem Obedient.hears (obedient : t.Obedient stands) {w : Watcher}
    (taken : t.hears w = some u) : ∃ later, t.Moves stands u later ∧ u.Obedient later := by
  obtain ⟨s, me, signal, watching, known, rfl, obeys⟩ := obedient.hears_cases taken
  exact ⟨_, .heard _ rfl known watching signal, obeys⟩

theorem Obedient.goes_cases (obedient : t.Obedient stands) {n : Nat} (taken : t.goes n = some u) :
    ∃ k watcher a next me new stand, new.rest = next (Fleet.handler k a t.fleet).1 ∧
      t.Goes stands n a me ⟨k, watcher, .act a next⟩ new stand u ∧
      u.Obedient (update stands n stand) := by
  unfold Traffic.goes at taken
  split at taken
  · next k watcher a next found =>
    split at taken
    · cases taken
    · next allowed =>
      obtain rfl := Option.some.inj taken
      obtain ⟨me, known, obeys⟩ := obedient n _ _ ⟨found, rfl⟩
      obtain ⟨stand, lawful, goesOn⟩ := obeys (Fleet.handler k a t.fleet).1
      let left : Task := ⟨k, watcher, next (Fleet.handler k a t.fleet).1⟩
      have goes : t.Goes stands n a me ⟨k, watcher, .act a next⟩ left stand
          ⟨left.leave (Fleet.handler k a t.fleet).2, lockedAfter k t.locked a,
            t.tasks.set n left⟩ :=
        { found, lawful, unfinished := rfl, member := rfl, present := known,
          free := fun takes inside => allowed ⟨takes, inside⟩, fleet := rfl, locked := rfl,
          tasks := rfl }
      refine ⟨k, watcher, a, next, me, left, stand, rfl, goes, fun i task st entry => ?_⟩
      rcases goes.at_iff.mp entry with ⟨-, kept⟩ | ⟨-, rfl, rfl⟩
      · exact obedient.of_kept kept (Moves.gone goes).profile?
      · exact ⟨me, ((Moves.gone goes).profile? _).trans known, goesOn⟩
  · cases taken

theorem Obedient.goes (obedient : t.Obedient stands) {n : Nat} (taken : t.goes n = some u) :
    ∃ later, t.Moves stands u later ∧ u.Obedient later := by
  obtain ⟨k, watcher, a, next, me, new, stand, -, goes, obeys⟩ := obedient.goes_cases taken
  exact ⟨_, .gone goes, obeys⟩

/-- A turn moves the stand of one call by the rule. -/
theorem Obedient.take (obedient : t.Obedient stands) {turn : Turn}
    (taken : t.take turn = some u) : ∃ later, t.Moves stands u later ∧ u.Obedient later := by
  cases turn with
  | begins k errand => exact obedient.begins taken
  | goes n => exact obedient.goes taken
  | hears w => exact obedient.hears taken

/-! ### Locks -/

/-- Whoever holds a lock has taken it, and no two calls hold the same. -/
structure Exclusive (t : Traffic) (stands : Nat → Stand) : Prop where
  locked : ∀ n task st, t.At stands n task st → st.stage.holds = true → task.member ∈ t.locked
  alone : ∀ n i task other st stand, t.At stands n task st → t.At stands i other stand →
    st.stage.holds = true → stand.stage.holds = true → task.member = other.member → n = i

/-- A new call holds nothing. -/
theorem Exclusive.added (exclusive : t.Exclusive stands) {new : Task} {stand : Stand}
    (locked : u.locked = t.locked) (tasks : u.tasks = t.tasks ++ [new])
    (free : stand.stage.holds = false) :
    u.Exclusive (update stands t.tasks.length stand) where
  locked n task st entry holds := by
    rcases (at_added tasks).mp entry with kept | ⟨-, -, rfl⟩
    · exact locked ▸ exclusive.locked n task st kept holds
    · cases free.symm.trans holds
  alone n i task other st stand' entry entry' holds holds' same := by
    rcases (at_added tasks).mp entry with kept | ⟨-, -, rfl⟩
    · rcases (at_added tasks).mp entry' with kept' | ⟨-, -, rfl⟩
      · exact exclusive.alone n i task other st stand' kept kept' holds holds' same
      · cases free.symm.trans holds'
    · cases free.symm.trans holds

theorem mem_lockedAfter {k j : Nat} {locked : List Nat} {a : Action} (member : j ∈ locked)
    (kept : a = .releaseLock → j ≠ k) : j ∈ lockedAfter k locked a := by
  cases a with
  | acquireLock => exact List.mem_cons_of_mem k member
  | releaseLock => exact List.mem_filter.mpr ⟨member, by simpa using kept rfl⟩
  | _ => exact member

/-- A call that goes on holds its lock already, or finds it free. -/
theorem Exclusive.apart_of_goes (exclusive : t.Exclusive stands) {n i : Nat} {a : Action}
    {me : Profile} {old new other : Task} {stand st : Stand}
    (goes : t.Goes stands n a me old new stand u) (apart : i ≠ n) (entry : t.At stands i other st)
    (holds : st.stage.holds = true) (takes : stand.stage.holds = true) :
    other.member ≠ new.member := by
  rw [goes.member]
  intro same
  rcases goes.lawful.holds_cases takes with ⟨already, -⟩ | ⟨takes, -⟩
  · exact apart (exclusive.alone i n other old st _ entry goes.before holds already same)
  · exact goes.free takes (same ▸ exclusive.locked i other st entry holds)

theorem Exclusive.moves (exclusive : t.Exclusive stands) (moves : t.Moves stands u later) :
    u.Exclusive later := by
  cases moves with
  | begun => exact exclusive.added rfl rfl rfl
  | heard =>
    refine exclusive.added rfl rfl ?_
    split <;> rfl
  | @gone n a me old new stand u goes =>
    constructor
    case locked =>
      intro i other st entry holds
      rw [goes.locked]
      rcases goes.at_iff.mp entry with ⟨apart, kept⟩ | ⟨-, rfl, rfl⟩
      · refine mem_lockedAfter (exclusive.locked i other st kept holds) ?_
        intro gives same
        have lawful := goes.lawful
        subst gives
        exact apart (exclusive.alone i n other old st _ kept goes.before holds
          lawful.holds_of_release same)
      · rw [goes.member]
        rcases goes.lawful.holds_cases holds with ⟨already, keeps⟩ | ⟨rfl, -⟩
        · exact mem_lockedAfter (exclusive.locked n old _ goes.before already) fun gives =>
            absurd gives keeps
        · exact List.mem_cons_self
    case alone =>
      intro i j one two st st' entry entry' holds holds' same
      rcases goes.at_iff.mp entry with ⟨apart, kept⟩ | ⟨rfl, rfl, rfl⟩
      · rcases goes.at_iff.mp entry' with ⟨-, kept'⟩ | ⟨rfl, rfl, rfl⟩
        · exact exclusive.alone i j one two st st' kept kept' holds holds' same
        · exact absurd same (exclusive.apart_of_goes goes apart kept holds holds')
      · rcases goes.at_iff.mp entry' with ⟨apart, kept'⟩ | ⟨rfl, rfl, rfl⟩
        · exact absurd same.symm (exclusive.apart_of_goes goes apart kept' holds' holds)
        · rfl

end Traffic

end Entitlement
