import Entitlement.Proofs.Delivery

/-!
# What a subscription is given

The life of a channel, move by move, with a log of every signal ever published. Signals have their
numbers in the log. A receipt says which of them a reception accounts for: the one that it hands
over, or all those that were pushed out before the subscription came to read them. The receipts of a
subscription follow each other without gap or overlap, so nothing that was published after it began
is left out in any other way, and nothing is told twice.
-/

namespace Entitlement

/-- A signal that a subscription was given, and the signals that it accounts for. -/
structure Receipt where
  subscription : Nat
  -- How many signals had been published by then.
  moment : Nat
  -- The number of the first signal accounted for, and of the first one after them.
  first : Nat
  next : Nat
  signal : Signal
deriving DecidableEq, Repr

namespace Receipt

/-- The signal of the log that the subscription had to read next, while it was still held. -/
def Exact (log : List Signal) (places : Nat) (r : Receipt) : Prop :=
  log[r.first]? = some r.signal ∧ r.next = r.first + 1 ∧
    r.first < r.moment ∧ r.moment ≤ r.first + places

/-- One signal of unknown origin for all those that were pushed out, up to the oldest one held. -/
def Coalesced (places : Nat) (r : Receipt) : Prop :=
  r.signal = ⟨""⟩ ∧ r.first + places < r.moment ∧ r.next + places = r.moment

theorem Exact.append {log : List Signal} {places : Nat} {r : Receipt} (exactly : r.Exact log places)
    (s : Signal) : r.Exact (log ++ [s]) places := by
  obtain ⟨same, rest⟩ := exactly
  exact ⟨List.getElem?_append_left (List.getElem?_eq_some_iff.mp same).1 ▸ same, rest⟩

end Receipt

/-- The receipts account for the signals from `start` up to `stop`, in this order and each once. -/
def Consecutive : Nat → List Receipt → Nat → Prop
  | start, [], stop => start = stop
  | start, r :: rest, stop => r.first = start ∧ r.first < r.next ∧ Consecutive r.next rest stop

namespace Consecutive

variable {start stop : Nat} {receipts : List Receipt}

theorem concat {r : Receipt} (consecutive : Consecutive start receipts r.first)
    (forward : r.first < r.next) : Consecutive start (receipts ++ [r]) r.next := by
  induction receipts generalizing start with
  | nil => exact ⟨consecutive.symm, forward, rfl⟩
  | cons head rest ih => exact ⟨consecutive.1, consecutive.2.1, ih consecutive.2.2⟩

/-- Every signal in between is accounted for. -/
theorem exists_receipt (consecutive : Consecutive start receipts stop) {n : Nat} (late : start ≤ n)
    (early : n < stop) : ∃ r ∈ receipts, r.first ≤ n ∧ n < r.next := by
  induction receipts generalizing start with
  | nil =>
    obtain rfl : start = stop := consecutive
    omega
  | cons head rest ih =>
    obtain ⟨rfl, forward, others⟩ := consecutive
    by_cases here : n < head.next
    · exact ⟨head, List.mem_cons_self, late, here⟩
    · obtain ⟨r, member, covers⟩ := ih others (Nat.le_of_not_lt here)
      exact ⟨r, List.mem_cons_of_mem head member, covers⟩

end Consecutive

/-! ### The life of a channel -/

/-- A channel and what has happened to it. -/
structure Broadcast where
  channel : Channel
  -- Every signal published so far.
  log : List Signal := []
  -- How many signals had been published when each subscription began.
  begun : List Nat := []
  -- The subscriptions that were given up.
  ended : List Nat := []
  receipts : List Receipt := []

/-- What can be done with a channel. -/
inductive Broadcast.Move where
  | publish (s : Signal)
  | subscribe
  | unsubscribe (id : Nat)
  | receive (id : Nat)
  | close
deriving DecidableEq, Repr

namespace Broadcast

def opened (capacity : Nat) : Broadcast := { channel := .opened capacity }

/-- The receipt that a reception leaves, if it finds a signal. -/
def receipt? (sub : Nat) (b : Broadcast) : Option Receipt := do
  let before ← b.channel.subscription? sub
  let signal ← (b.channel.receive sub).1.signal?
  let later ← (b.channel.receive sub).2.subscription? sub
  return ⟨sub, b.log.length, before.position, later.position, signal⟩

/-- The subscription has begun and was not given up. -/
def Holds (sub : Nat) (b : Broadcast) : Prop := sub < b.begun.length ∧ sub ∉ b.ended

instance (sub : Nat) (b : Broadcast) : Decidable (b.Holds sub) :=
  inferInstanceAs (Decidable (_ ∧ _))

/-- Nobody publishes or subscribes any more once the channel is closed. -/
def take (b : Broadcast) : Move → Option Broadcast
  | .publish s =>
    if b.channel.closed then none
    else some { b with channel := b.channel.publish s, log := b.log ++ [s] }
  | .subscribe =>
    if b.channel.closed then none
    else some { b with channel := b.channel.subscribe.2, begun := b.begun ++ [b.log.length] }
  | .unsubscribe id =>
    if b.Holds id then
      some { b with channel := b.channel.unsubscribe id, ended := b.ended ++ [id] }
    else none
  | .receive id =>
    if b.Holds id then
      some { b with
        channel := (b.channel.receive id).2
        receipts := b.receipts ++ (b.receipt? id).toList }
    else none
  | .close => some { b with channel := b.channel.close }

def play : List Move → Broadcast → Option Broadcast
  | [], b => some b
  | m :: rest, b => (b.take m).bind (play rest)

def receiptsOf (sub : Nat) (b : Broadcast) : List Receipt :=
  b.receipts.filter (·.subscription = sub)

/-! ### What holds all along -/

variable {b later : Broadcast} {places sub start stop : Nat}

/-- The channel holds the end of the log, and what a subscription was told reaches from its
beginning to where it stands. -/
structure Faithful (places : Nat) (b : Broadcast) : Prop where
  sound : b.channel.Sound
  capacity : b.channel.capacity = places
  published : b.channel.published = b.log.length
  held : b.channel.held = b.log.drop (b.log.length - places)
  numbered : b.channel.nextId = b.begun.length
  known : ∀ r ∈ b.receipts, r.subscription < b.begun.length
  told : ∀ r ∈ b.receipts, r.Exact b.log places ∨ r.Coalesced places
  followed : ∀ sub start, b.begun[sub]? = some start → ∃ stop ≤ b.log.length,
    Consecutive start (b.receiptsOf sub) stop ∧
      (sub ∉ b.ended → b.channel.subscription? sub = some ⟨sub, stop⟩)

theorem faithful_opened (capacity : Nat) :
    (opened capacity).Faithful (max capacity 1).nextPowerOfTwo where
  sound := Channel.sound_opened capacity
  capacity := rfl
  published := rfl
  held := by simp [opened, Channel.opened]
  numbered := rfl
  known := nofun
  told := nofun
  followed := nofun

namespace Faithful

variable (faithful : b.Faithful places)

include faithful

theorem oldest : b.channel.oldest = b.log.length - places := by
  simp only [Channel.oldest, faithful.published, faithful.held, List.length_drop]
  omega

/-- What is held bears its number in the log. -/
theorem getElem?_held {n : Nat} (kept : b.channel.oldest ≤ n) :
    b.channel.held[n - b.channel.oldest]? = b.log[n]? := by
  rw [faithful.oldest] at kept ⊢
  rw [faithful.held, List.getElem?_drop, Nat.add_sub_cancel' kept]

theorem subscription?_of_holds (holds : b.Holds sub) :
    ∃ stop, b.channel.subscription? sub = some ⟨sub, stop⟩ := by
  obtain ⟨inside, held⟩ := holds
  obtain ⟨stop, -, -, stands⟩ :=
    faithful.followed sub b.begun[sub] (List.getElem?_eq_getElem inside)
  exact ⟨stop, stands held⟩

/-! #### Publishing, subscribing, leaving, closing -/

theorem publish (s : Signal) :
    Faithful places { b with channel := b.channel.publish s, log := b.log ++ [s] } where
  sound := faithful.sound.publish s
  capacity := faithful.capacity
  published := by simp [Channel.publish, faithful.published]
  held := by
    have kept : b.log.length - places ≤ b.log.length := Nat.sub_le _ _
    rw [Channel.held_publish, Channel.pushedOut, faithful.capacity, faithful.held,
      ← List.drop_append_of_le_length kept, List.drop_drop, List.length_drop, List.length_append,
      List.length_singleton]
    congr 1
    omega
  numbered := faithful.numbered
  known := faithful.known
  told r member := (faithful.told r member).imp_left (·.append s)
  followed sub start begun := by
    obtain ⟨stop, inside, followed⟩ := faithful.followed sub start begun
    exact ⟨stop, by simp only [List.length_append]; omega, followed⟩

theorem receiptsOf_next : b.receiptsOf b.begun.length = [] :=
  List.filter_eq_nil_iff.mpr fun r member => by
    simpa using Nat.ne_of_lt (faithful.known r member)

theorem subscribe :
    Faithful places
      { b with channel := b.channel.subscribe.2, begun := b.begun ++ [b.log.length] } where
  sound := faithful.sound.subscribe
  capacity := faithful.capacity
  published := faithful.published
  held := faithful.held
  numbered := by simp [Channel.subscribe, faithful.numbered]
  known r member := by
    simpa using Nat.lt_succ_of_lt (faithful.known r member)
  told := faithful.told
  followed sub start begun := by
    rcases Nat.lt_or_ge sub b.begun.length with old | new
    · rw [List.getElem?_append_left old] at begun
      rw [← faithful.numbered] at old
      rw [Channel.subscription?_subscribe old]
      exact faithful.followed sub start begun
    · -- The new subscription stands where the log ends, and was told nothing yet.
      rw [List.getElem?_append_right new, List.getElem?_singleton] at begun
      split at begun
      · next first =>
        obtain rfl : b.log.length = start := Option.some.inj begun
        obtain rfl : sub = b.begun.length := by omega
        have untold : Consecutive b.log.length (b.receiptsOf b.begun.length) b.log.length := by
          rw [faithful.receiptsOf_next]
          rfl
        refine ⟨b.log.length, Nat.le_refl _, untold, fun _ => ?_⟩
        rw [← faithful.numbered, ← faithful.published]
        exact Channel.subscription?_subscribe_self faithful.sound
      · cases begun

theorem unsubscribe (id : Nat) :
    Faithful places
      { b with channel := b.channel.unsubscribe id, ended := b.ended ++ [id] } where
  sound := faithful.sound.unsubscribe id
  capacity := faithful.capacity
  published := faithful.published
  held := faithful.held
  numbered := faithful.numbered
  known := faithful.known
  told := faithful.told
  followed sub start begun := by
    obtain ⟨stop, inside, consecutive, stands⟩ := faithful.followed sub start begun
    refine ⟨stop, inside, consecutive, fun held => ?_⟩
    rw [List.mem_append, List.mem_singleton, not_or] at held
    rw [Channel.subscription?_unsubscribe held.2]
    exact stands held.1

theorem close : Faithful places { b with channel := b.channel.close } where
  sound := ⟨faithful.sound.held, faithful.sound.position, faithful.sound.fresh⟩
  capacity := faithful.capacity
  published := faithful.published
  held := faithful.held
  numbered := faithful.numbered
  known := faithful.known
  told := faithful.told
  followed := faithful.followed

/-! #### Receiving -/

/-- A reception leaves no receipt and changes nothing, or it leaves one that begins where the
subscription stood, and moves it on to where the receipt ends. -/
theorem receipt?_cases (found : b.channel.subscription? sub = some ⟨sub, stop⟩) :
    (b.receipt? sub = none ∧ (b.channel.receive sub).2 = b.channel) ∨
      ∃ r, b.receipt? sub = some r ∧ (b.channel.receive sub).2 = b.channel.moveTo sub r.next ∧
        r.subscription = sub ∧ r.first = stop ∧ r.first < r.next ∧ r.next ≤ b.log.length ∧
        (r.Exact b.log places ∨ r.Coalesced places) := by
  have finds := Channel.receive_found b.channel sub
  unfold receipt?
  generalize (b.channel.receive sub).1 = reception at finds ⊢
  generalize (b.channel.receive sub).2 = later at finds ⊢
  cases finds with
  | unknown absent => exact absurd (absent.symm.trans found) nofun
  | lagged same behind =>
    cases found.symm.trans same
    have moved := Channel.subscription?_moveTo_self b.channel.oldest found
    refine .inr ⟨⟨sub, b.log.length, stop, b.channel.oldest, ⟨""⟩⟩,
      by simp [found, moved, Reception.signal?], rfl, rfl, rfl, behind, ?_, .inr ⟨rfl, ?_⟩⟩
    all_goals simp only [faithful.oldest] at behind ⊢; omega
  | @received _ signal same abreast held =>
    cases found.symm.trans same
    have moved := Channel.subscription?_moveTo_self (stop + 1) found
    have logged := (faithful.getElem?_held abreast).symm.trans held
    have inside := (List.getElem?_eq_some_iff.mp logged).1
    refine .inr ⟨⟨sub, b.log.length, stop, stop + 1, signal⟩,
      by simp [found, moved, Reception.signal?], rfl, rfl, rfl, Nat.lt_succ_self _, inside,
      .inl ⟨logged, rfl, inside, ?_⟩⟩
    simp only [faithful.oldest] at abreast ⊢
    omega
  | nothing =>
    refine .inl ⟨?_, rfl⟩
    split <;> simp [found, Reception.signal?]

theorem receive (holds : b.Holds sub) :
    Faithful places { b with
      channel := (b.channel.receive sub).2
      receipts := b.receipts ++ (b.receipt? sub).toList } := by
  obtain ⟨stood, found⟩ := faithful.subscription?_of_holds holds
  rcases faithful.receipt?_cases found with
    ⟨none, same⟩ | ⟨r, some, moved, own, first, forward, inside, accounts⟩
  · rw [none, same, Option.toList_none, List.append_nil]
    exact faithful
  · have sound := faithful.sound.receive sub
    rw [moved] at sound
    rw [some, moved, Option.toList_some]
    refine ⟨sound, faithful.capacity, faithful.published, faithful.held, faithful.numbered,
      fun other member => ?known, fun other member => ?told, fun other start begun => ?followed⟩
    case known =>
      rcases List.mem_append.mp member with old | new
      · exact faithful.known other old
      · rw [List.mem_singleton.mp new, own]
        exact holds.1
    case told =>
      rcases List.mem_append.mp member with old | new
      · exact faithful.told other old
      · rw [List.mem_singleton.mp new]
        exact accounts
    case followed =>
      obtain ⟨stop, before, consecutive, stands⟩ := faithful.followed other start begun
      by_cases same : sub = other
      · -- The receipt goes on from where the subscription stood.
        subst same
        cases found.symm.trans (stands holds.2)
        refine ⟨r.next, inside, ?_, fun _ => Channel.subscription?_moveTo_self _ found⟩
        simpa [receiptsOf, own] using Consecutive.concat (first ▸ consecutive) forward
      · refine ⟨stop, before, by simpa [receiptsOf, own, same] using consecutive, fun held => ?_⟩
        exact (Channel.subscription?_moveTo_of_ne (Ne.symm same)).trans (stands held)

/-! #### Any life -/

theorem take {m : Move} (met : b.take m = some later) : later.Faithful places := by
  cases m with
  | publish s =>
    simp only [Broadcast.take] at met
    split at met
    · cases met
    · exact Option.some.inj met ▸ faithful.publish s
  | subscribe =>
    simp only [Broadcast.take] at met
    split at met
    · cases met
    · exact Option.some.inj met ▸ faithful.subscribe
  | unsubscribe id =>
    simp only [Broadcast.take] at met
    split at met
    · exact Option.some.inj met ▸ faithful.unsubscribe id
    · cases met
  | receive id =>
    simp only [Broadcast.take] at met
    split at met
    · next holds => exact Option.some.inj met ▸ faithful.receive holds
    · cases met
  | close => exact Option.some.inj met ▸ faithful.close

theorem play {moves : List Move} (played : Broadcast.play moves b = some later) :
    later.Faithful places := by
  induction moves generalizing b with
  | nil => exact Option.some.inj played ▸ faithful
  | cons m rest ih =>
    obtain ⟨next, met, goes⟩ := Option.bind_eq_some_iff.mp played
    exact ih (faithful.take met) goes

end Faithful

/-! ### What a subscription is given -/

/-- What a subscription that stands at this signal still has to be given. -/
def outstanding (places stop : Nat) (log : List Signal) : List Reception :=
  if stop + places < log.length then
    .lagged (log.length - places - stop) :: (log.drop (log.length - places)).map .received
  else (log.drop stop).map .received

theorem Faithful.receptions (faithful : b.Faithful places)
    (found : b.channel.subscription? sub = some ⟨sub, stop⟩) :
    b.channel.receptions sub ((outstanding places stop b.log).length + 1) =
      outstanding places stop b.log ++ [if b.channel.closed then .closed else .pending] := by
  have oldest := faithful.oldest
  unfold outstanding
  split
  · next far =>
    have behind : stop < b.channel.oldest := by omega
    have lagging := Channel.receptions_of_behind found behind
    rw [oldest, faithful.held] at lagging
    simpa using lagging
  · next near =>
    have abreast : b.channel.oldest ≤ stop := by omega
    have waits : b.channel.held.drop (stop - b.channel.oldest) = b.log.drop stop := by
      rw [faithful.held, List.drop_drop, ← oldest, Nat.add_sub_cancel' abreast]
    simpa using Channel.receptions_of_abreast found abreast waits

/-- A subscription that finds nothing stands where the log ends. -/
theorem Faithful.eq_of_nothing (faithful : b.Faithful places)
    (found : b.channel.subscription? sub = some ⟨sub, stop⟩) (inside : stop ≤ b.log.length)
    (nothing : (b.channel.receive sub).1.signal? = none) : stop = b.log.length := by
  have finds := Channel.receive_found b.channel sub
  generalize (b.channel.receive sub).1 = reception at finds nothing
  generalize (b.channel.receive sub).2 = later at finds
  cases finds with
  | unknown absent => exact absurd (absent.symm.trans found) nofun
  | lagged => cases nothing
  | received => cases nothing
  | nothing same abreast none =>
    cases found.symm.trans same
    rw [faithful.getElem?_held abreast] at none
    exact Nat.le_antisymm inside (List.getElem?_eq_none_iff.mp none)

/-- Whatever happens to a channel, a subscription is told of every signal that was published after
it began, in order and once: by the signal itself, or, if it was pushed out before, by one signal of
unknown origin for all that were. When it finds nothing, it was told of all of them; and as long as
it is held it finds in turn all that is outstanding, also after the channel was closed. -/
theorem told_of_everything {capacity : Nat} {moves : List Move}
    (played : play moves (opened capacity) = some b) {start : Nat}
    (begun : b.begun[sub]? = some start) :
    (∀ r ∈ b.receiptsOf sub, r.Exact b.log (max capacity 1).nextPowerOfTwo ∨
        r.Coalesced (max capacity 1).nextPowerOfTwo) ∧
      ∃ stop ≤ b.log.length, Consecutive start (b.receiptsOf sub) stop ∧
        (sub ∉ b.ended →
          ((b.channel.receive sub).1.signal? = none → ∀ n, start ≤ n → n < b.log.length →
            ∃ r ∈ b.receiptsOf sub, r.first ≤ n ∧ n < r.next ∧ n < r.moment) ∧
          b.channel.receptions sub
              ((outstanding (max capacity 1).nextPowerOfTwo stop b.log).length + 1) =
            outstanding (max capacity 1).nextPowerOfTwo stop b.log ++
              [if b.channel.closed then .closed else .pending]) := by
  have faithful := (faithful_opened capacity).play played
  have told : ∀ r ∈ b.receiptsOf sub, r.Exact b.log (max capacity 1).nextPowerOfTwo ∨
      r.Coalesced (max capacity 1).nextPowerOfTwo :=
    fun r member => faithful.told r (List.mem_filter.mp member).1
  obtain ⟨stop, inside, consecutive, stands⟩ := faithful.followed sub start begun
  refine ⟨told, stop, inside, consecutive, fun held => ⟨fun nothing n late early => ?_, ?_⟩⟩
  · obtain rfl := faithful.eq_of_nothing (stands held) inside nothing
    obtain ⟨r, member, covers⟩ := consecutive.exists_receipt late early
    refine ⟨r, member, covers.1, covers.2, ?_⟩
    rcases told r member with exactly | coalesced
    · obtain ⟨-, next, before, -⟩ := exactly
      omega
    · obtain ⟨-, -, next⟩ := coalesced
      omega
  · exact faithful.receptions (stands held)

/-- A channel with one place. The first subscription reads after three signals, the second one began
after the first of them and reads when the channel is closed. -/
def crowded : List Move :=
  [.subscribe, .publish ⟨"a"⟩, .subscribe, .publish ⟨"b"⟩, .publish ⟨"c"⟩, .receive 0, .receive 0,
    .receive 0, .close]

theorem told_of_everything_crowded :
    ∃ b, play crowded (opened 0) = some b ∧
      b.receiptsOf 0 = [⟨0, 3, 0, 2, ⟨""⟩⟩, ⟨0, 3, 2, 3, ⟨"c"⟩⟩] ∧
      (∀ n < 3, ∃ r ∈ b.receiptsOf 0, r.first ≤ n ∧ n < r.next ∧ n < r.moment) ∧
      b.channel.receptions 1 3 = [.lagged 1, .received ⟨"c"⟩, .closed] := by
  have course : (play crowded (opened 0)).any (fun b =>
      decide (b.log.length = 3 ∧ b.log = [⟨"a"⟩, ⟨"b"⟩, ⟨"c"⟩] ∧ b.channel.closed = true ∧
        b.begun = [0, 1] ∧ b.ended = [] ∧ b.receiptsOf 1 = [] ∧
        b.receiptsOf 0 = [⟨0, 3, 0, 2, ⟨""⟩⟩, ⟨0, 3, 2, 3, ⟨"c"⟩⟩] ∧
        (b.channel.receive 0).1.signal? = none)) = true := by decide +kernel
  obtain ⟨b, played, fits⟩ := (Option.any_eq_true _ _).mp course
  obtain ⟨three, logged, closed, begun, ended, untold, told, nothing⟩ := of_decide_eq_true fits
  have stays (sub : Nat) : sub ∉ b.ended := by simp [ended]
  refine ⟨b, played, told, fun n early => ?_, ?_⟩
  · have first : b.begun[0]? = some 0 := by simp [begun]
    obtain ⟨-, stop, -, -, given⟩ := told_of_everything played first
    exact (given (stays 0)).1 nothing n (Nat.zero_le n) (three ▸ early)
  · have second : b.begun[1]? = some 1 := by simp [begun]
    obtain ⟨-, stop, -, consecutive, given⟩ := told_of_everything played second
    rw [untold] at consecutive
    obtain rfl : 1 = stop := consecutive
    have finds := (given (stays 1)).2
    have places : (max 0 1).nextPowerOfTwo = 1 := by decide +kernel
    rw [places, logged, closed] at finds
    exact finds

end Broadcast

end Entitlement
