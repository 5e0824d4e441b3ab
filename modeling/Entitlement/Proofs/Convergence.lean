import Entitlement.Proofs.Locking

/-!
# Convergence

Whatever is stored reaches every watching replica. From the moment at which a subscription is open,
its replica is provided for: some call has still to rebuild the index or to tell of a write, or a
signal waits for the subscription, or the index lists what is stored. When no call is half done and
nothing waits, only the last of these is left.
-/

namespace Entitlement

open Function (update)

namespace Fleet

variable {k : Nat} {f g : Fleet}

/-- What the convergence of a fleet takes for granted of its store, its channel and its replicas. -/
structure Fit (f : Fleet) : Prop where
  honest : f.rigged = none
  mild : f.Mild
  sound : f.channel.Sound
  named : ∀ k me, f.profile? k = some me → me.id ≠ ""
  distinct : ∀ j k one two, f.profile? j = some one → f.profile? k = some two →
    one.id = two.id → j = k

theorem Fit.of_framed (fit : f.Fit) (framed : Framed k f g) (sound : g.channel.Sound) : g.Fit where
  honest := framed.rigged.trans fit.honest
  mild := fit.mild.of_framed framed
  sound := sound
  named j me present := fit.named j me ((framed.profiles j).symm.trans present)
  distinct i j one two here there :=
    fit.distinct i j one two ((framed.profiles i).symm.trans here)
      ((framed.profiles j).symm.trans there)

theorem Fit.handler (fit : f.Fit) (k : Nat) (a : Action) : (handler k a f).2.Fit :=
  fit.of_framed (framed_handler k a f) (sound_of_moved (moved_handler fit.mild a) fit.sound)

theorem serves_of_profile (fit : f.Fit) {me : Profile} (present : f.profile? k = some me) :
    f.Serves k where
  honest := fit.honest
  present := by
    obtain ⟨m, found, -⟩ := Option.map_eq_some_iff.mp present
    rw [found]
    rfl

/-! ### Receiving -/

theorem fst_receive (subscription : Nat) (f : Fleet) :
    (f.receive subscription).1 = (f.channel.receive subscription).1 := by
  unfold receive
  dsimp only
  split <;> rfl

theorem channel_receive (subscription : Nat) (f : Fleet) :
    (f.receive subscription).2.channel = (f.channel.receive subscription).2 := by
  unfold receive
  dsimp only
  split <;> rfl

theorem watchers_receive (subscription : Nat) (f : Fleet) :
    (f.receive subscription).2.watchers = f.watchers := by
  unfold receive
  dsimp only
  split <;> rfl

theorem keeps_receive (subscription : Nat) (f : Fleet) :
    Keeps f f.relations (f.receive subscription).2 := by
  unfold receive
  dsimp only
  split <;> exact (Keeps.refl f).of_records rfl rfl rfl rfl rfl

theorem unmoved_receive (subscription : Nat) (f : Fleet) (k : Nat) (id : String) :
    Unmoved f k id (f.receive subscription).2 := by
  refine ⟨(keeps_receive subscription f).relations, ?_, ?_⟩
  · exact indexOf_congr (keeps_receive subscription f).members
  · unfold receive
    dsimp only
    split
    · exact Telemetry.lastReport_cons f.telemetry nofun
    · rfl

theorem nextId_receive (subscription : Nat) (c : Channel) :
    (c.receive subscription).2.nextId = c.nextId := by
  unfold Channel.receive
  split
  · rfl
  · split
    · rfl
    · split <;> rfl

theorem Fit.receive (fit : f.Fit) (subscription : Nat) : (f.receive subscription).2.Fit := by
  refine fit.of_framed (k := 0) (.of_keeps (keeps_receive subscription f)) ?_
  rw [channel_receive]
  exact fit.sound.receive subscription

end Fleet

namespace Traffic

open Fleet (Unmoved)

variable {t u : Traffic} {stands later : Nat → Stand} {k sub : Nat} {id : String}

/-! ### Being provided for -/

/-- The call sees to it that replica `k` will list what is stored: it has to rebuild the index, or
is rebuilding it and has nothing outdated in hand, or has still to tell the replica of a write. -/
def Assures (f : Fleet) (k : Nat) (id : String) (task : Task) (st : Stand) : Prop :=
  if task.member = k then st.stage = .due ∨ st.stage.holds = true ∧ st.stage.Timely f k id
  else st.owes = true

theorem Assures.of_own {f : Fleet} {task : Task} {st : Stand} (own : task.member = k)
    (assures : st.stage = .due ∨ st.stage.holds = true ∧ st.stage.Timely f k id) :
    Assures f k id task st := by
  rwa [Assures, if_pos own]

theorem Assures.of_other {f : Fleet} {task : Task} {st : Stand} (other : task.member ≠ k)
    (owes : st.owes = true) : Assures f k id task st := by
  rwa [Assures, if_neg other]

/-- What somebody else's rebuild has in hand is out of reach, and the rest concerns nobody else. -/
theorem Assures.of_free {f g : Fleet} {task : Task} {st : Stand} (assures : Assures f k id task st)
    (free : task.member = k → st.stage.holds = false) : Assures g k id task st := by
  by_cases own : task.member = k
  · rw [Assures, if_pos own] at assures
    rcases assures with due | ⟨holds, -⟩
    · exact .of_own own (.inl due)
    · cases holds.symm.trans (free own)
  · rw [Assures, if_neg own] at assures
    exact .of_other own assures

theorem Assures.of_unmoved {f g : Fleet} {task : Task} {st : Stand}
    (assures : Assures f k id task st) (unmoved : Unmoved f k id g) : Assures g k id task st := by
  unfold Assures at *
  split
  · next own =>
    rw [if_pos own] at assures
    exact assures.imp_right fun ⟨holds, timely⟩ => ⟨holds, timely.of_unmoved unmoved⟩
  · next other => rwa [if_neg other] at assures

/-- Replica `k` will list what is stored, or lists it already, or failed in its last rebuild. -/
inductive Provided (t : Traffic) (stands : Nat → Stand) (k sub : Nat) (id : String) : Prop
  | assured {n : Nat} {task : Task} {st : Stand} (entry : t.At stands n task st)
      (assures : Assures t.fleet k id task st)
  | waiting (waits : ¬ t.fleet.channel.OnlyFrom sub id)
  | settled (free : ∀ n task st, t.At stands n task st → task.member = k →
        st.stage.holds = false)
      (timely : Stage.idle.Timely t.fleet k id)

/-- A new call takes no provision away, and a signal only if it brings the call that heeds it. -/
theorem Provided.added (provided : t.Provided stands k sub id) {new : Task} {stand : Stand}
    (tasks : u.tasks = t.tasks ++ [new]) (unmoved : Unmoved t.fleet k id u.fleet)
    (free : stand.stage.holds = false)
    (heeded : u.fleet.channel.OnlyFrom sub id →
      t.fleet.channel.OnlyFrom sub id ∨ new.member = k ∧ stand.stage = .due) :
    u.Provided (update stands t.tasks.length stand) k sub id := by
  cases provided with
  | assured entry assures =>
    exact .assured ((at_added tasks).mpr (.inl entry)) (assures.of_unmoved unmoved)
  | waiting waits =>
    by_cases only : u.fleet.channel.OnlyFrom sub id
    · rcases heeded only with before | ⟨own, due⟩
      · exact absurd before waits
      · exact .assured ((at_added tasks).mpr (.inr ⟨rfl, rfl, rfl⟩)) (.of_own own (.inl due))
    · exact .waiting only
  | settled others timely =>
    refine .settled (fun n task st entry own => ?_) (timely.of_unmoved unmoved)
    rcases (at_added tasks).mp entry with kept | ⟨-, -, rfl⟩
    · exact others n task st kept own
    · exact free

section Gone

variable {me : Profile} {n : Nat} {a : Action} {old new : Task} {stand : Stand}

/-- No call takes away what waits for a subscription that is open already. -/
theorem Goes.onlyFrom (goes : t.Goes stands n a me old new stand u) (fit : t.fleet.Fit)
    (known : sub < t.fleet.channel.nextId) (only : u.fleet.channel.OnlyFrom sub id) :
    t.fleet.channel.OnlyFrom sub id := by
  obtain ⟨watchers, fleet⟩ := goes.exists_fleet
  rw [fleet] at only
  exact Fleet.onlyFrom_of_moved (Fleet.moved_handler fit.mild a) fit.sound known only

/-- A rebuild that holds the lock keeps what it has in hand timely, to its end. -/
theorem Goes.provided_of_timely (goes : t.Goes stands n a me old new stand u) (fit : t.fleet.Fit)
    (exclusive : t.Exclusive stands) (holds : (stands n).stage.holds = true)
    (timely : (stands n).stage.Timely t.fleet old.member me.id) :
    u.Provided (update stands n stand) old.member sub me.id := by
  have goesOn : stand.stage.Timely u.fleet old.member me.id := by
    obtain ⟨watchers, fleet⟩ := goes.exists_fleet
    rw [fleet]
    exact goes.lawful.timely (Fleet.serves_of_profile fit goes.present) rfl holds timely
  cases further : stand.stage.holds with
  | true => exact .assured goes.after (.of_own goes.member (.inr ⟨further, goesOn⟩))
  | false =>
    rw [goes.lawful.idle_of_holds holds further] at goesOn
    refine .settled (fun i other st entry own => ?_) goesOn
    rcases goes.at_iff.mp entry with ⟨apart, kept⟩ | ⟨-, -, rfl⟩
    · refine Bool.eq_false_iff.mpr fun holding => apart ?_
      exact exclusive.alone i n other old st _ kept goes.before holding holds own
    · exact further

/-- The call that holds the lock of the replica goes on. -/
theorem Provided.of_holder (provided : t.Provided stands old.member sub me.id)
    (goes : t.Goes stands n a me old new stand u) (fit : t.fleet.Fit)
    (exclusive : t.Exclusive stands) (known : sub < t.fleet.channel.nextId)
    (holds : (stands n).stage.holds = true) :
    u.Provided (update stands n stand) old.member sub me.id := by
  cases provided with
  | @assured i task st entry assures =>
    by_cases same : i = n
    · subst same
      obtain ⟨rfl, rfl⟩ : task = old ∧ st = stands i :=
        ⟨Option.some.inj (entry.1.symm.trans goes.found), entry.2.symm⟩
      refine goes.provided_of_timely fit exclusive holds ?_
      rw [Assures, if_pos rfl] at assures
      rcases assures with due | ⟨-, timely⟩
      · rw [due] at holds
        cases holds
      · exact timely
    · -- The lock is taken, so another call is not rebuilding the index.
      refine .assured (goes.kept same entry) (assures.of_free fun own => ?_)
      refine Bool.eq_false_iff.mpr fun holding => same ?_
      exact exclusive.alone i n task old st _ entry goes.before holding holds own
  | waiting waits => exact .waiting fun only => waits (goes.onlyFrom fit known only)
  | settled free => cases (free n old _ goes.before rfl).symm.trans holds

/-- A call that replica `k` relies on, and that does not hold its lock, goes on. -/
theorem Assures.goes (assures : Assures t.fleet k id old (stands n))
    (goes : t.Goes stands n a me old new stand u) (fit : t.fleet.Fit)
    (elsewhere : (stands n).stage.holds = true → old.member ≠ k)
    (apart : old.member ≠ k → me.id ≠ id) : u.Provided (update stands n stand) k sub id := by
  by_cases own : old.member = k
  · rw [Assures, if_pos own] at assures
    rcases assures with due | ⟨holds, -⟩
    · refine .assured goes.after (.of_own (goes.member.trans own) ?_)
      rcases goes.lawful.due_or_begun due with still | begun
      · exact .inl still
      · rw [begun]
        exact .inr ⟨rfl, trivial⟩
    · exact absurd own (elsewhere holds)
  · rw [Assures, if_neg own] at assures
    rcases goes.lawful.owes_or_published fit.mild assures with owes | published
    · exact .assured goes.after (.of_other (goes.member ▸ own) owes)
    · refine .waiting fun only => apart own ?_
      obtain ⟨watchers, fleet⟩ := goes.exists_fleet
      rw [fleet] at only
      exact (Channel.OnlyFrom.of_publish fit.sound (published ▸ only)).2

/-- A replica that lists what is stored goes on doing so until one of its calls takes the lock. -/
theorem Goes.provided_of_settled (goes : t.Goes stands n a me old new stand u)
    (elsewhere : (stands n).stage.holds = true → old.member ≠ k)
    (free : ∀ i task st, t.At stands i task st → task.member = k → st.stage.holds = false)
    (timely : Stage.idle.Timely u.fleet k id) : u.Provided (update stands n stand) k sub id := by
  by_cases begins : old.member = k ∧ stand.stage.holds = true
  · obtain ⟨own, holds⟩ := begins
    refine .assured goes.after (.of_own (goes.member.trans own) (.inr ⟨holds, ?_⟩))
    rcases goes.lawful.holds_cases holds with ⟨already, -⟩ | ⟨-, begun⟩
    · exact absurd own (elsewhere already)
    · rw [begun]
      trivial
  · refine .settled (fun i task st entry own => ?_) timely
    rcases goes.at_iff.mp entry with ⟨-, kept⟩ | ⟨-, rfl, rfl⟩
    · exact free i task st kept own
    · exact Bool.eq_false_iff.mpr fun holds => begins ⟨goes.member.symm.trans own, holds⟩

/-- A call that does not hold the lock of the replica goes on. -/
theorem Provided.of_other (provided : t.Provided stands k sub id)
    (goes : t.Goes stands n a me old new stand u) (fit : t.fleet.Fit)
    (known : sub < t.fleet.channel.nextId)
    (elsewhere : (stands n).stage.holds = true → old.member ≠ k)
    (apart : old.member ≠ k → me.id ≠ id) : u.Provided (update stands n stand) k sub id := by
  have moved : Unmoved t.fleet k id (Fleet.handler old.member a t.fleet).2 ∨
      stand.stage = .due ∧ stand.owes = true :=
    goes.lawful.unmoved_or_written fit.mild rfl fun holds =>
      ⟨(elsewhere holds).symm, (apart (elsewhere holds)).symm⟩
  rcases moved with unmoved | ⟨due, owes⟩
  · have unmoved : Unmoved t.fleet k id u.fleet := by
      obtain ⟨watchers, fleet⟩ := goes.exists_fleet
      rw [fleet]
      exact ⟨unmoved.relations, unmoved.index, unmoved.report⟩
    cases provided with
    | @assured i task st entry assures =>
      by_cases same : i = n
      · subst same
        obtain ⟨rfl, rfl⟩ : task = old ∧ st = stands i :=
          ⟨Option.some.inj (entry.1.symm.trans goes.found), entry.2.symm⟩
        exact assures.goes goes fit elsewhere apart
      · exact .assured (goes.kept same entry) (assures.of_unmoved unmoved)
    | waiting waits => exact .waiting fun only => waits (goes.onlyFrom fit known only)
    | settled free timely =>
      exact goes.provided_of_settled elsewhere free (timely.of_unmoved unmoved)
  · -- An accepted write outdates every index, and the call goes on to make up for it.
    refine .assured goes.after ?_
    by_cases own : old.member = k
    · exact .of_own (goes.member.trans own) (.inl due)
    · exact .of_other (goes.member ▸ own) owes

end Gone

/-! ### Subscriptions and watchers -/

/-- A call of replica `k` has opened the subscription. -/
def Opened (t : Traffic) (stands : Nat → Stand) (k sub : Nat) : Prop :=
  ∃ n task st, t.At stands n task st ∧ task.member = k ∧ st.subscription = some sub

/-- Every watcher was left behind by a call that has opened its subscription. -/
def Attended (t : Traffic) (stands : Nat → Stand) : Prop :=
  ∀ w ∈ t.fleet.watchers, ∃ n task st, t.At stands n task st ∧ task.member = w.member ∧
    task.outcome? = some (.watched (.ok w.subscription))

theorem Attended.opened (attended : t.Attended stands) (obedient : t.Obedient stands) {w : Watcher}
    (watching : w ∈ t.fleet.watchers) : t.Opened stands w.member w.subscription := by
  obtain ⟨n, ⟨member, watcher, rest⟩, st, entry, same, ended⟩ := attended w watching
  obtain ⟨me, -, obeys⟩ := obedient n _ st entry
  cases rest with
  | act => cases ended
  | done outcome =>
    cases ended
    have stands : st = ⟨.idle, false, some w.subscription⟩ := obeys
    exact ⟨n, _, st, entry, same, by rw [stands]⟩

theorem Attended.moves (attended : t.Attended stands) (mild : t.fleet.Mild)
    (moves : t.Moves stands u later) : u.Attended later := by
  cases moves with
  | begun =>
    intro w watching
    obtain ⟨n, task, st, entry, left⟩ := attended w watching
    exact ⟨n, task, st, (at_added rfl).mpr (.inl entry), left⟩
  | heard =>
    intro w watching
    obtain ⟨n, task, st, entry, left⟩ := attended w (Fleet.watchers_receive _ _ ▸ watching)
    exact ⟨n, task, st, (at_added rfl).mpr (.inl entry), left⟩
  | @gone n a me old new stand u goes =>
    intro w watching
    rw [goes.fleet] at watching
    rcases Task.mem_watchers_leave watching with before | left
    · rw [Fleet.handler_watchers mild] at before
      obtain ⟨i, other, st, entry, same, ended⟩ := attended w before
      refine ⟨i, other, st, goes.kept ?_ entry, same, ended⟩
      -- A call that has ended does not go on.
      rintro rfl
      rw [Option.some.inj (entry.1.symm.trans goes.found), goes.unfinished] at ended
      cases ended
    · exact ⟨n, new, stand, goes.after, left⟩

theorem opened_added {new : Task} {stand : Stand} (tasks : u.tasks = t.tasks ++ [new])
    (none : stand.subscription = none)
    (opened : u.Opened (update stands t.tasks.length stand) k sub) : t.Opened stands k sub := by
  obtain ⟨n, task, st, entry, same, has⟩ := opened
  rcases (at_added tasks).mp entry with kept | ⟨-, -, rfl⟩
  · exact ⟨n, task, st, kept, same, has⟩
  · cases none.symm.trans has

/-! ### The invariant -/

structure Converging (t : Traffic) (stands : Nat → Stand) : Prop where
  fit : t.fleet.Fit
  obedient : t.Obedient stands
  exclusive : t.Exclusive stands
  attended : t.Attended stands
  known : ∀ k sub, t.Opened stands k sub → sub < t.fleet.channel.nextId
  owner : ∀ j k sub, t.Opened stands j sub → t.Opened stands k sub → j = k
  provided : ∀ k sub me, t.Opened stands k sub → t.fleet.profile? k = some me →
    t.Provided stands k sub me.id

/-- A turn that adds a call. -/
theorem Converging.added (converging : t.Converging stands) {new : Task} {stand : Stand}
    (moves : t.Moves stands u (update stands t.tasks.length stand))
    (obedient : u.Obedient (update stands t.tasks.length stand))
    (fit : u.fleet.Fit) (tasks : u.tasks = t.tasks ++ [new]) (none : stand.subscription = none)
    (free : stand.stage.holds = false) (nextId : u.fleet.channel.nextId = t.fleet.channel.nextId)
    (unmoved : ∀ k id, Unmoved t.fleet k id u.fleet)
    (heeded : ∀ k sub me, t.Opened stands k sub → t.fleet.profile? k = some me →
      u.fleet.channel.OnlyFrom sub me.id →
      t.fleet.channel.OnlyFrom sub me.id ∨ new.member = k ∧ stand.stage = .due) :
    u.Converging (update stands t.tasks.length stand) where
  fit := fit
  obedient := obedient
  exclusive := converging.exclusive.moves moves
  attended := converging.attended.moves converging.fit.mild moves
  known k sub opened := nextId ▸ converging.known k sub (opened_added tasks none opened)
  owner j k sub one two := converging.owner j k sub (opened_added tasks none one)
    (opened_added tasks none two)
  provided k sub me opened present := by
    have before := opened_added tasks none opened
    have known := (moves.profile? k).symm.trans present
    exact (converging.provided k sub me before known).added tasks (unmoved k me.id) free
      (heeded k sub me before known)

/-- A subscription is an old one, or the call has just opened it. -/
theorem Goes.opened_cases {n : Nat} {a : Action} {me : Profile} {old new : Task} {stand : Stand}
    (goes : t.Goes stands n a me old new stand u)
    (opened : u.Opened (update stands n stand) k sub) :
    t.Opened stands k sub ∨ old.member = k ∧ stand.stage = .due ∧
      sub = t.fleet.channel.nextId ∧ u.fleet.channel.nextId = sub + 1 := by
  obtain ⟨i, other, st, entry, same, has⟩ := opened
  rcases goes.at_iff.mp entry with ⟨-, kept⟩ | ⟨-, rfl, rfl⟩
  · exact .inl ⟨i, other, st, kept, same, has⟩
  · rcases goes.lawful.subscription_cases rfl has with before | ⟨due, new, next⟩
    · exact .inl ⟨n, old, _, goes.before, goes.member.symm.trans same, before⟩
    · obtain ⟨watchers, fleet⟩ := goes.exists_fleet
      rw [fleet]
      exact .inr ⟨goes.member.symm.trans same, due, new, next⟩

/-- A turn in which a call goes on. -/
theorem Converging.gone (converging : t.Converging stands) {n : Nat} {a : Action} {me : Profile}
    {old new : Task} {stand : Stand} (goes : t.Goes stands n a me old new stand u)
    (obedient : u.Obedient (update stands n stand)) : u.Converging (update stands n stand) := by
  have fit := converging.fit
  have moves := Moves.gone goes
  obtain ⟨watchers, fleet⟩ := goes.exists_fleet
  constructor
  case fit =>
    have after := fit.handler old.member a
    rw [fleet]
    exact ⟨after.honest, ⟨after.mild.inert, after.mild.heard⟩, after.sound, after.named,
      after.distinct⟩
  case obedient => exact obedient
  case exclusive => exact converging.exclusive.moves moves
  case attended => exact converging.attended.moves fit.mild moves
  case known =>
    intro k sub opened
    rcases goes.opened_cases opened with before | ⟨-, -, -, next⟩
    · rw [fleet]
      exact Nat.lt_of_lt_of_le (converging.known k sub before)
        (Fleet.nextId_le_of_moved (Fleet.moved_handler fit.mild a))
    · rw [next]
      exact Nat.lt_succ_self sub
  case owner =>
    intro i j sub one two
    rcases goes.opened_cases one with before | ⟨here, -, newest, -⟩ <;>
      rcases goes.opened_cases two with before' | ⟨here', -, newest', -⟩
    · exact converging.owner i j sub before before'
    · exact absurd (converging.known i sub before) (by omega)
    · exact absurd (converging.known j sub before') (by omega)
    · exact here.symm.trans here'
  case provided =>
    intro k sub you opened there
    rcases goes.opened_cases opened with before | ⟨here, due, -, -⟩
    · have known := converging.known k sub before
      have there : t.fleet.profile? k = some you := (moves.profile? k).symm.trans there
      have provided := converging.provided k sub you before there
      by_cases holder : (stands n).stage.holds = true ∧ old.member = k
      · obtain ⟨holds, rfl⟩ := holder
        obtain rfl : me = you := Option.some.inj (goes.present.symm.trans there)
        exact provided.of_holder goes fit converging.exclusive known holds
      · refine provided.of_other goes fit known (fun holds own => holder ⟨holds, own⟩) ?_
        exact fun apart same => apart (fit.distinct _ k me you goes.present there same)
    · exact .assured goes.after (.of_own (goes.member.trans here) (.inl due))

theorem Converging.take (converging : t.Converging stands) {turn : Turn}
    (taken : t.take turn = some u) : ∃ later, t.Moves stands u later ∧ u.Converging later := by
  obtain ⟨later, moves, obedient⟩ := converging.obedient.take taken
  refine ⟨later, moves, ?_⟩
  have again := moves
  cases moves with
  | begun task =>
    exact converging.added again obedient converging.fit rfl rfl rfl rfl
      (fun _ _ => ⟨rfl, rfl, rfl⟩) fun _ _ _ _ _ only => .inl only
  | @heard me w s task member present watching signal =>
    refine converging.added again obedient (converging.fit.receive _) rfl rfl (by split <;> rfl) ?_
      (Fleet.unmoved_receive _ _) fun k sub you opened there only => ?_
    · rw [Fleet.channel_receive, Fleet.nextId_receive]
    · rw [Fleet.fst_receive] at signal
      rw [Fleet.channel_receive] at only
      by_cases own : s.origin = me.id
      · refine .inl (only.of_receive fun same found heard => ?_)
        -- The receiver is the replica that the subscription belongs to.
        subst same
        have receiver := converging.attended.opened converging.obedient watching
        obtain rfl := converging.owner _ _ _ receiver opened
        obtain rfl : me = you := Option.some.inj (present.symm.trans there)
        obtain rfl : s = found := Option.some.inj (signal.symm.trans heard)
        exact ⟨own, converging.fit.named _ _ present⟩
      · by_cases same : sub = w.subscription
        · subst same
          have receiver := converging.attended.opened converging.obedient watching
          exact .inr ⟨member.trans (converging.owner _ _ _ receiver opened), if_neg own⟩
        · exact .inl (only.of_receive fun equal => absurd equal same)
  | gone goes => exact converging.gone goes obedient

/-- At rest, nothing but a waiting signal can still provide for a replica. -/
theorem Converging.timely_of_atRest (converging : t.Converging stands) (rest : t.AtRest)
    {w : Watcher} (watching : w ∈ t.fleet.watchers)
    (caughtUp : (t.fleet.receive w.subscription).1 = .pending) :
    ∃ me, t.fleet.profile? w.member = some me ∧ Stage.idle.Timely t.fleet w.member me.id := by
  have opened := converging.attended.opened converging.obedient watching
  have ended {n : Nat} {task : Task} {st : Stand} (entry : t.At stands n task st) :
      st.stage = .idle ∧ st.owes = false := by
    obtain ⟨me, -, obeys⟩ := converging.obedient n task st entry
    obtain ⟨member, watcher, call⟩ := task
    cases call with
    | act => cases rest _ (List.mem_of_getElem? entry.1)
    | done outcome => exact outcome.idle_of_leaves obeys
  obtain ⟨n, task, st, entry, member, -⟩ := id opened
  obtain ⟨me, present, -⟩ := converging.obedient n task st entry
  rw [member] at present
  refine ⟨me, present, ?_⟩
  cases converging.provided _ _ me opened present with
  | assured entry assures =>
    obtain ⟨idle, silent⟩ := ended entry
    rw [Assures, idle, silent] at assures
    split at assures <;> simp [Stage.holds] at assures
  | waiting waits =>
    rw [Fleet.fst_receive] at caughtUp
    exact absurd (Channel.onlyFrom_of_pending caughtUp me.id) waits
  | settled free timely => exact timely

end Traffic

end Entitlement
