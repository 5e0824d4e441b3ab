import Entitlement.Channel

/-!
# What waits for a subscription

A signal that was published after a subscription began either can still be received or makes the
subscription lag. A replica passes over its own signals, so what counts is whether anything else
waits; a lag counts as something else.
-/

namespace Entitlement

namespace Channel

variable {c : Channel} {sub : Nat} {id : String}

/-! ### Well-formed channels -/

/-- The channel holds no more than was published, and no subscription is ahead of it. -/
structure Sound (c : Channel) : Prop where
  held : c.held.length ≤ c.published
  position : ∀ s ∈ c.subscriptions, s.position ≤ c.published
  fresh : ∀ s ∈ c.subscriptions, s.id < c.nextId

theorem mem_of_subscription? {s : Subscription} (found : c.subscription? sub = some s) :
    s ∈ c.subscriptions ∧ s.id = sub :=
  ⟨List.mem_of_find?_eq_some found, by simpa using List.find?_some found⟩

theorem sound_opened (capacity : Nat) : (opened capacity).Sound :=
  ⟨Nat.le_refl 0, nofun, nofun⟩

/-- How many of the held signals a publication pushes out. -/
def pushedOut (c : Channel) : Nat := c.held.length + 1 - c.capacity

theorem held_publish (s : Signal) : (c.publish s).held = (c.held ++ [s]).drop c.pushedOut := by
  simp [publish, pushedOut]

theorem oldest_publish (sound : c.Sound) (s : Signal) :
    (c.publish s).oldest = c.oldest + c.pushedOut := by
  have bound := sound.held
  have published : (c.publish s).published = c.published + 1 := rfl
  simp only [oldest, held_publish, published, List.length_drop, List.length_append,
    List.length_singleton, pushedOut]
  omega

theorem Sound.publish (sound : c.Sound) (s : Signal) : (c.publish s).Sound where
  held := by
    have bound := sound.held
    have published : (c.publish s).published = c.published + 1 := rfl
    rw [held_publish, published, List.length_drop, List.length_append, List.length_singleton]
    omega
  position s member := Nat.le_succ_of_le (sound.position s member)
  fresh := sound.fresh

theorem Sound.subscribe (sound : c.Sound) : c.subscribe.2.Sound where
  held := sound.held
  position s member := by
    rcases List.mem_append.mp member with old | new
    · exact sound.position s old
    · rw [List.mem_singleton.mp new]
      exact Nat.le_refl _
  fresh s member := by
    rcases List.mem_append.mp member with old | new
    · exact Nat.lt_succ_of_lt (sound.fresh s old)
    · rw [List.mem_singleton.mp new]
      exact Nat.lt_succ_self _

theorem Sound.unsubscribe (sound : c.Sound) (n : Nat) : (c.unsubscribe n).Sound where
  held := sound.held
  position s member := sound.position s (List.mem_filter.mp member).1
  fresh s member := sound.fresh s (List.mem_filter.mp member).1

theorem Sound.moveTo (sound : c.Sound) {position : Nat} (published : position ≤ c.published) :
    (c.moveTo sub position).Sound where
  held := sound.held
  position s member := by
    obtain ⟨old, inOld, rfl⟩ := List.mem_map.mp member
    split
    · exact published
    · exact sound.position old inOld
  fresh s member := by
    obtain ⟨old, inOld, rfl⟩ := List.mem_map.mp member
    split
    · next same => exact same ▸ sound.fresh old inOld
    · exact sound.fresh old inOld

/-! ### Receiving -/

/-- What a receiver can find. -/
inductive Found (c : Channel) (sub : Nat) : Reception → Channel → Prop
  | unknown (absent : c.subscription? sub = none) : Found c sub .closed c
  | lagged {s : Subscription} (found : c.subscription? sub = some s)
      (behind : s.position < c.oldest) :
      Found c sub (.lagged (c.oldest - s.position)) (c.moveTo sub c.oldest)
  | received {s : Subscription} {signal : Signal} (found : c.subscription? sub = some s)
      (abreast : c.oldest ≤ s.position) (held : c.held[s.position - c.oldest]? = some signal) :
      Found c sub (.received signal) (c.moveTo sub (s.position + 1))
  | nothing {s : Subscription} (found : c.subscription? sub = some s)
      (abreast : c.oldest ≤ s.position) (held : c.held[s.position - c.oldest]? = none) :
      Found c sub (if c.closed then .closed else .pending) c

theorem receive_found (c : Channel) (sub : Nat) :
    Found c sub (c.receive sub).1 (c.receive sub).2 := by
  unfold receive
  split
  · next absent => exact .unknown absent
  · next s found =>
    split
    · next behind => exact .lagged found behind
    · next abreast =>
      split
      · next signal held => exact .received found (Nat.le_of_not_lt abreast) held
      · next held => exact .nothing found (Nat.le_of_not_lt abreast) held

theorem Sound.receive (sound : c.Sound) (sub : Nat) : (c.receive sub).2.Sound := by
  have found := receive_found c sub
  generalize (c.receive sub).1 = reception at found
  generalize (c.receive sub).2 = later at found
  cases found with
  | unknown => exact sound
  | lagged => exact sound.moveTo (Nat.sub_le _ _)
  | received found abreast held =>
    have inside := (List.getElem?_eq_some_iff.mp held).1
    have bound := sound.held
    refine sound.moveTo ?_
    simp only [oldest] at *
    omega
  | nothing => exact sound

/-! ### Nothing but signals of one origin -/

/-- Whatever waits for the subscription has this origin, and the subscription does not lag. -/
def OnlyFrom (c : Channel) (sub : Nat) (id : String) : Prop :=
  ∃ s, c.subscription? sub = some s ∧ c.oldest ≤ s.position ∧
    ∀ n signal, s.position ≤ n → c.held[n - c.oldest]? = some signal → signal.origin = id

/-- A signal keeps its number when others are pushed out before it. -/
theorem getElem?_held_publish (sound : c.Sound) (s : Signal) {n : Nat}
    (kept : (c.publish s).oldest ≤ n) :
    (c.publish s).held[n - (c.publish s).oldest]? = (c.held ++ [s])[n - c.oldest]? := by
  rw [oldest_publish sound] at kept ⊢
  rw [held_publish, List.getElem?_drop]
  congr 1
  omega

theorem published_sub_oldest (sound : c.Sound) : c.published - c.oldest = c.held.length := by
  have bound := sound.held
  simp only [oldest]
  omega

/-- A publication takes nothing away from what waits, and itself waits for everybody. -/
theorem OnlyFrom.of_publish {s : Signal} (sound : c.Sound) (only : (c.publish s).OnlyFrom sub id) :
    c.OnlyFrom sub id ∧ s.origin = id := by
  obtain ⟨receiver, found, abreast, waiting⟩ := only
  have position := sound.position _ (mem_of_subscription? found).1
  have later := oldest_publish sound s
  refine ⟨⟨receiver, found, by omega, fun n signal late held => ?_⟩, ?_⟩
  · refine waiting n signal late ?_
    rw [getElem?_held_publish sound s (by omega),
      List.getElem?_append_left (List.getElem?_eq_some_iff.mp held).1]
    exact held
  · refine waiting c.published s position ?_
    rw [getElem?_held_publish sound s (by omega), published_sub_oldest sound]
    exact List.getElem?_concat_length

theorem subscription?_subscribe (old : sub < c.nextId) :
    c.subscribe.2.subscription? sub = c.subscription? sub := by
  have other : (c.nextId == sub) = false := by
    rw [beq_eq_false_iff_ne]
    omega
  simp [subscription?, subscribe, other]

/-- A new subscription stands where the signals end. -/
theorem subscription?_subscribe_self (sound : c.Sound) :
    c.subscribe.2.subscription? c.nextId = some ⟨c.nextId, c.published⟩ := by
  have unknown : c.subscriptions.find? (·.id == c.nextId) = none :=
    List.find?_eq_none.mpr fun s member => by simpa using Nat.ne_of_lt (sound.fresh s member)
  simp [subscription?, subscribe, unknown]

theorem subscription?_unsubscribe {n : Nat} (other : sub ≠ n) :
    (c.unsubscribe n).subscription? sub = c.subscription? sub := by
  simp only [subscription?, unsubscribe, List.find?_filter]
  congr 1
  funext s
  by_cases is : s.id = sub <;> simp [is, other]

theorem OnlyFrom.of_subscribe (old : sub < c.nextId) (only : c.subscribe.2.OnlyFrom sub id) :
    c.OnlyFrom sub id := by
  obtain ⟨receiver, found, rest⟩ := only
  exact ⟨receiver, (subscription?_subscribe old).symm.trans found, rest⟩

theorem OnlyFrom.of_unsubscribe {n : Nat} (only : (c.unsubscribe n).OnlyFrom sub id) :
    c.OnlyFrom sub id := by
  obtain ⟨receiver, found, rest⟩ := only
  obtain ⟨member, same⟩ := mem_of_subscription? found
  have other : sub ≠ n := by
    rintro rfl
    simpa [same] using (List.mem_filter.mp member).2
  exact ⟨receiver, (subscription?_unsubscribe other).symm.trans found, rest⟩

theorem subscription?_moveTo {n position : Nat} :
    (c.moveTo n position).subscription? sub =
      (c.subscription? sub).map fun s => if s.id = n then ⟨n, position⟩ else s := by
  simp only [subscription?, moveTo, List.find?_map]
  congr 2
  funext s
  by_cases same : s.id = n <;> simp [same]

theorem subscription?_moveTo_self {s : Subscription} (position : Nat)
    (found : c.subscription? sub = some s) :
    (c.moveTo sub position).subscription? sub = some ⟨sub, position⟩ := by
  rw [subscription?_moveTo, found, Option.map_some, if_pos (mem_of_subscription? found).2]

theorem subscription?_moveTo_of_ne {n position : Nat} (other : sub ≠ n) :
    (c.moveTo n position).subscription? sub = c.subscription? sub := by
  rw [subscription?_moveTo]
  cases found : c.subscription? sub with
  | none => rfl
  | some s =>
    have unmoved : s.id ≠ n := fun same => other ((mem_of_subscription? found).2.symm.trans same)
    rw [Option.map_some, if_neg unmoved]

/-- One subscription does not receive what waits for another. -/
theorem OnlyFrom.of_moveTo {n position : Nat} (other : sub ≠ n)
    (only : (c.moveTo n position).OnlyFrom sub id) : c.OnlyFrom sub id := by
  obtain ⟨receiver, found, rest⟩ := only
  exact ⟨receiver, (subscription?_moveTo_of_ne other).symm.trans found, rest⟩

/-- A reception takes at most one signal away from what waits, and only from its own
subscription. -/
theorem OnlyFrom.of_receive {n : Nat} (only : (c.receive n).2.OnlyFrom sub id)
    (own : sub = n → ∀ s, (c.receive n).1.signal? = some s → s.origin = id ∧ id ≠ "") :
    c.OnlyFrom sub id := by
  have found := receive_found c n
  generalize (c.receive n).1 = reception at found own
  generalize (c.receive n).2 = later at found only
  cases found with
  | unknown => exact only
  | nothing => exact only
  | lagged found behind =>
    refine OnlyFrom.of_moveTo (fun same => ?_) only
    obtain ⟨empty, named⟩ := own same _ rfl
    exact named empty.symm
  | @received s signal found abreast held =>
    by_cases same : sub = n
    · obtain ⟨receiver, moved, -, waiting⟩ := only
      obtain ⟨origin, -⟩ := own same _ rfl
      subst same
      rw [subscription?_moveTo, found, Option.map_some, if_pos (mem_of_subscription? found).2,
        Option.some.injEq] at moved
      subst moved
      refine ⟨s, found, abreast, fun m other late waits => ?_⟩
      rcases Nat.eq_or_lt_of_le late with rfl | later
      -- The received signal itself.
      · rw [held, Option.some.injEq] at waits
        exact waits ▸ origin
      · exact waiting m other later waits
    · exact OnlyFrom.of_moveTo same only

/-- A receiver that finds nothing has nothing waiting. -/
theorem onlyFrom_of_pending (pending : (c.receive sub).1 = .pending) (id : String) :
    c.OnlyFrom sub id := by
  have found := receive_found c sub
  generalize (c.receive sub).1 = reception at found pending
  generalize (c.receive sub).2 = later at found
  cases found with
  | unknown => cases pending
  | lagged => cases pending
  | received => cases pending
  | nothing found abreast held =>
    refine ⟨_, found, abreast, fun n signal late waits => ?_⟩
    have beyond := List.getElem?_eq_none_iff.mp held
    have inside := (List.getElem?_eq_some_iff.mp waits).1
    omega

/-! ### A signal of unknown origin -/

/-- What the subscription finds when it is asked so many times. -/
def receptions (sub : Nat) : Nat → Channel → List Reception
  | 0, _ => []
  | times + 1, c => (c.receive sub).1 :: receptions sub times (c.receive sub).2

/-- A subscription that does not lag is given what is held from where it stands on. -/
theorem receptions_of_abreast {receiver : Subscription} {waiting : List Signal}
    (found : c.subscription? sub = some receiver) (abreast : c.oldest ≤ receiver.position)
    (waits : c.held.drop (receiver.position - c.oldest) = waiting) :
    c.receptions sub (waiting.length + 1) =
      waiting.map .received ++ [if c.closed then .closed else .pending] := by
  induction waiting generalizing c receiver with
  | nil =>
    have nothing : c.held[receiver.position - c.oldest]? = none := by
      rw [← List.head?_drop, waits, List.head?_nil]
    simp [receptions, receive, found, Nat.not_lt.mpr abreast, nothing]
  | cons signal rest ih =>
    have first : c.held[receiver.position - c.oldest]? = some signal := by
      rw [← List.head?_drop, waits, List.head?_cons]
    have received : c.receive sub = (.received signal, c.moveTo sub (receiver.position + 1)) := by
      simp [receive, found, Nat.not_lt.mpr abreast, first]
    have others : c.held.drop (receiver.position + 1 - c.oldest) = rest := by
      rw [Nat.succ_sub abreast, ← List.tail_drop, waits, List.tail_cons]
    rw [List.length_cons, receptions, received, List.map_cons, List.cons_append]
    congr 1
    exact ih (subscription?_moveTo_self _ found) (Nat.le_succ_of_le abreast) others

/-- A subscription that lags is told so, and then given all that is held. -/
theorem receptions_of_behind {receiver : Subscription} (found : c.subscription? sub = some receiver)
    (behind : receiver.position < c.oldest) :
    c.receptions sub (c.held.length + 2) =
      .lagged (c.oldest - receiver.position) ::
        (c.held.map .received ++ [if c.closed then .closed else .pending]) := by
  have lagged : c.receive sub =
      (.lagged (c.oldest - receiver.position), c.moveTo sub c.oldest) := by
    simp [receive, found, behind]
  rw [receptions, lagged]
  congr 1
  refine receptions_of_abreast (subscription?_moveTo_self _ found) (Nat.le_refl _) ?_
  exact congrArg (List.drop · c.held) (Nat.sub_self c.oldest)

/-- The subscription lags, or the signal waits for it. -/
def Awaits (c : Channel) (sub : Nat) (signal : Signal) : Prop :=
  ∃ receiver, c.subscription? sub = some receiver ∧
    (receiver.position < c.oldest ∨
      ∃ n, receiver.position ≤ n ∧ c.held[n - c.oldest]? = some signal)

theorem awaits_publish (sound : c.Sound) (signal : Signal) {receiver : Subscription}
    (found : c.subscription? sub = some receiver) : (c.publish signal).Awaits sub signal := by
  refine ⟨receiver, found, ?_⟩
  by_cases behind : receiver.position < (c.publish signal).oldest
  · exact .inl behind
  · have position := sound.position _ (mem_of_subscription? found).1
    refine .inr ⟨c.published, position, ?_⟩
    rw [getElem?_held_publish sound signal (by omega), published_sub_oldest sound]
    exact List.getElem?_concat_length

/-- A signal that is pushed out by others makes the subscription lag. -/
theorem Awaits.publish {signal : Signal} (awaits : c.Awaits sub signal) (sound : c.Sound)
    (other : Signal) : (c.publish other).Awaits sub signal := by
  obtain ⟨receiver, found, waiting⟩ := awaits
  have later := oldest_publish sound other
  refine ⟨receiver, found, ?_⟩
  by_cases behind : receiver.position < (c.publish other).oldest
  · exact .inl behind
  · rcases waiting with lagging | ⟨n, late, held⟩
    · omega
    · refine .inr ⟨n, late, ?_⟩
      rw [getElem?_held_publish sound other (by omega),
        List.getElem?_append_left (List.getElem?_eq_some_iff.mp held).1]
      exact held

/-- Asked once more than there are signals before the one that waits, the subscription finds it, or
finds that it lags. -/
theorem exists_reception {times n : Nat} {receiver : Subscription}
    (found : c.subscription? sub = some receiver) (late : receiver.position ≤ n)
    (held : c.held[n - c.oldest]? = some ⟨""⟩) (enough : n - receiver.position < times) :
    ∃ reception ∈ c.receptions sub times, reception.signal? = some ⟨""⟩ := by
  induction times generalizing c receiver with
  | zero => omega
  | succ times ih =>
    have finds := receive_found c sub
    simp only [receptions, List.mem_cons, exists_eq_or_imp]
    generalize (c.receive sub).1 = reception at finds ⊢
    generalize (c.receive sub).2 = next at finds ⊢
    cases finds with
    | unknown absent =>
      rw [absent] at found
      cases found
    | lagged => exact .inl rfl
    | @received s signal same abreast first =>
      cases found.symm.trans same
      by_cases now : receiver.position = n
      · rw [now, held] at first
        exact .inl first.symm
      · right
        -- The subscription goes on by one, and nothing else changes.
        apply ih (subscription?_moveTo_self _ found)
        · change receiver.position + 1 ≤ n
          omega
        · exact held
        · change n - (receiver.position + 1) < times
          omega
    | nothing same abreast none =>
      cases found.symm.trans same
      have beyond := List.getElem?_eq_none_iff.mp none
      have inside := (List.getElem?_eq_some_iff.mp held).1
      omega

theorem Awaits.exists_reception (awaits : c.Awaits sub ⟨""⟩) :
    ∃ reception ∈ c.receptions sub (c.backlog sub), reception.signal? = some ⟨""⟩ := by
  obtain ⟨receiver, found, waiting⟩ := awaits
  by_cases behind : receiver.position < c.oldest
  · have once : c.backlog sub = c.held.length + 1 := by simp [backlog, found, behind]
    have lags : (c.receive sub).1 = .lagged (c.oldest - receiver.position) := by
      simp [receive, found, behind]
    rw [once]
    exact ⟨_, List.mem_cons_self, by rw [lags]; rfl⟩
  · rcases waiting with lagging | ⟨n, late, held⟩
    · exact absurd lagging behind
    · have enough : c.backlog sub = c.held.length := by simp [backlog, found, behind]
      have inside := (List.getElem?_eq_some_iff.mp held).1
      apply Channel.exists_reception found late held
      omega

end Channel

end Entitlement
