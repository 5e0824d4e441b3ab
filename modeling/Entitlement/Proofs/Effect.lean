import Entitlement.Proofs.Conduct
import Entitlement.Proofs.Delivery
import Entitlement.Proofs.Notes

/-!
# What a lawful action does

The effect of one action on what the convergence of a fleet depends on: the content, the index of a
replica, its last report of a rebuild, and what waits for a subscription. Where the action is not
lawful in itself, the stand of its call says what may have changed.
-/

namespace Entitlement

/-- Whether the last rebuild that the replica reported succeeded. -/
def Telemetry.lastReport (id : String) (t : Telemetry) : Option Bool :=
  t.findSome? fun entry => entry.report?.bind fun (author, success) =>
    if author = id then some success else none

theorem Telemetry.lastReport_report {id author : String} {success : Bool} {entry : Trace}
    (t : Telemetry) (reported : entry.report? = some (author, success)) :
    lastReport id (entry :: t) = if author = id then some success else lastReport id t := by
  rw [lastReport, List.findSome?_cons, reported, Option.bind_some]
  by_cases same : author = id
  · simp [same]
  · simp [same, lastReport]

theorem Telemetry.lastReport_cons {id : String} {entry : Trace} (t : Telemetry)
    (other : ∀ success, entry.report? ≠ some (id, success)) :
    lastReport id (entry :: t) = lastReport id t := by
  cases reported : entry.report? with
  | none => rw [lastReport, List.findSome?_cons, reported]; rfl
  | some report =>
    obtain ⟨author, success⟩ := report
    rw [lastReport_report t reported, if_neg]
    exact fun same => other success (same ▸ reported)

namespace Fleet

variable {k j : Nat} {id : String} {f g : Fleet}

/-- The last rebuild that the replica reported was a failure. -/
def Failing (f : Fleet) (id : String) : Prop := f.telemetry.lastReport id = some false

instance (f : Fleet) (k : Nat) : Decidable (f.Current k) :=
  inferInstanceAs (Decidable (f.indexOf k = f.relations.index))

/-- A refused write changes nothing, and no publication fails. -/
structure Mild (f : Fleet) : Prop where
  inert : ∀ fault ∈ f.storeFaults, fault.effect.persists = false
  heard : ∀ fault ∈ f.signalFaults, fault.trigger.point ≠ .publish

theorem Mild.of_framed (mild : f.Mild) (framed : Framed k f g) : g.Mild where
  inert fault member := by
    obtain ⟨earlier, inFaults, -, effect⟩ := framed.storeFaults fault member
    exact effect ▸ mild.inert earlier inFaults
  heard fault member := by
    obtain ⟨earlier, inFaults, trigger, -⟩ := framed.signalFaults fault member
    exact trigger ▸ mild.heard earlier inFaults

theorem Mild.relations_of_refused (mild : f.Mild) {change : Change} {fact : Fact}
    {cause : StoreFailure} (refused : (f.write change fact).1 = .error cause) :
    (f.write change fact).2.relations = f.relations := by
  rcases write_cases change fact f with ⟨accepted, -⟩ | ⟨effect, armed, -, relations⟩
  · rw [accepted] at refused
    cases refused
  · obtain ⟨fault, member, -, same⟩ := armed
    have harmless : effect.persists = false := same ▸ mild.inert fault member
    simpa [harmless] using relations

end Fleet

/-- Whether the action touches the channel or the record. -/
def Action.signals : Action → Bool
  | .publish _ | .subscribe | .unsubscribe _ | .note _ => true
  | _ => false

/-- Whether the action touches the content, an index or the record. -/
def Action.bears : Action → Bool
  | .write .. | .swapIndex _ | .note _ => true
  | _ => false

namespace Fleet

variable {k j : Nat} {id : String} {f g : Fleet}

/-! ### Watchers, telemetry and channel -/

/-- `g` has the watchers and the telemetry of `f`, and the channel `c`. -/
structure Carries (f : Fleet) (c : Channel) (g : Fleet) : Prop where
  watchers : g.watchers = f.watchers
  telemetry : g.telemetry = f.telemetry
  channel : g.channel = c

theorem Carries.of_same {c : Channel} {h : Fleet} (carries : Carries f c g)
    (watchers : h.watchers = g.watchers) (telemetry : h.telemetry = g.telemetry)
    (channel : h.channel = g.channel) : Carries f c h where
  watchers := watchers.trans carries.watchers
  telemetry := telemetry.trans carries.telemetry
  channel := channel.trans carries.channel

theorem carries_strikeStore (call : Occasion) (f : Fleet) :
    Carries f f.channel (f.strikeStore call).2 := ⟨rfl, rfl, rfl⟩

theorem carries_strikeSignal (call : Occasion) (f : Fleet) :
    Carries f f.channel (f.strikeSignal call).2 := ⟨rfl, rfl, rfl⟩

theorem carries_handler {a : Action} (f : Fleet) (quiet : a.signals = false) :
    Carries f f.channel (handler k a f).2 := by
  cases a with
  | publish | subscribe | unsubscribe | note => cases quiet
  | write change fact =>
    have struck := carries_strikeStore (.ofWrite change fact) f
    simp only [handler, write]
    split <;> next met => rw [met] at struck; exact struck.of_same rfl rfl rfl
  | query pattern =>
    have struck := carries_strikeStore (.ofQuery pattern) f
    simp only [handler, query]
    split <;> next met => rw [met] at struck; exact struck.of_same rfl rfl rfl
  | probe =>
    have struck := carries_strikeStore { point := .probe } f
    simp only [handler, probe]
    split <;> next met => rw [met] at struck; exact struck
  | register record =>
    have struck := carries_strikeStore { point := .register } f
    simp only [handler, register]
    split <;> next met => rw [met] at struck; exact struck.of_same rfl rfl rfl
  | listing w =>
    have struck := carries_strikeStore { point := .listing } f
    simp only [handler, listing]
    split <;> next met => rw [met] at struck; exact struck
  | _ => exact ⟨rfl, rfl, rfl⟩

/-- A publication that no fault strikes reaches the channel. -/
theorem carries_publish (mild : f.Mild) (s : Signal) :
    Carries f (f.channel.publish s) (f.publish s).2 := by
  have struck := carries_strikeSignal { point := .publish } f
  unfold publish
  split
  · next failure g met =>
    have effective : (f.strikeSignal { point := .publish }).1 = some failure := by rw [met]
    obtain ⟨fault, member, fits, -⟩ := Fault.exists_of_strike (Prod.ext effective rfl)
    simp only [Occasion.fits, Bool.and_eq_true, beq_iff_eq] at fits
    exact absurd fits.1.1.1.1.1.1 (mild.heard fault member)
  · next g met =>
    rw [met] at struck
    exact ⟨struck.watchers, struck.telemetry, congrArg (Channel.publish s) struck.channel⟩

theorem subscribe_cases (f : Fleet) :
    (f.subscribe.1 = .ok f.channel.nextId ∧ Carries f f.channel.subscribe.2 f.subscribe.2) ∨
    ∃ cause, f.subscribe.1 = .error cause ∧ Carries f f.channel f.subscribe.2 := by
  have struck := carries_strikeSignal { point := .subscribe } f
  unfold subscribe
  split
  · next failure g met =>
    rw [met] at struck
    exact .inr ⟨failure, rfl, struck⟩
  · next g met =>
    rw [met] at struck
    left
    rw [← struck.channel]
    exact ⟨rfl, struck.watchers, struck.telemetry, rfl⟩

theorem handler_watchers (mild : f.Mild) (a : Action) :
    (handler k a f).2.watchers = f.watchers := by
  cases a with
  | publish s => exact (carries_publish mild s).watchers
  | subscribe =>
    rcases subscribe_cases f with ⟨-, carries⟩ | ⟨-, -, carries⟩ <;> exact carries.watchers
  | unsubscribe n => rfl
  | note t => rfl
  | _ => exact (carries_handler f rfl).watchers

/-- What an action can do to the channel. -/
inductive Moved (c : Channel) : Channel → Prop
  | same {d : Channel} (unchanged : d = c) : Moved c d
  | published (s : Signal) : Moved c (c.publish s)
  | subscribed : Moved c c.subscribe.2
  | unsubscribed (n : Nat) : Moved c (c.unsubscribe n)

theorem moved_handler (mild : f.Mild) (a : Action) :
    Moved f.channel (handler k a f).2.channel := by
  cases a with
  | publish s => exact (carries_publish mild s).channel ▸ .published s
  | subscribe =>
    rcases subscribe_cases f with ⟨-, carries⟩ | ⟨-, -, carries⟩
    · exact carries.channel ▸ .subscribed
    · exact .same carries.channel
  | unsubscribe n => exact .unsubscribed n
  | note t => exact .same rfl
  | _ => exact .same (carries_handler f rfl).channel

/-- No action takes anything away from what waits for a subscription that is open already. -/
theorem onlyFrom_of_moved {c d : Channel} (moved : Moved c d) (sound : c.Sound) {sub : Nat}
    (old : sub < c.nextId) (only : d.OnlyFrom sub id) : c.OnlyFrom sub id := by
  cases moved with
  | same unchanged => exact unchanged ▸ only
  | published s => exact (only.of_publish sound).1
  | subscribed => exact only.of_subscribe old
  | unsubscribed n => exact only.of_unsubscribe

theorem sound_of_moved {c d : Channel} (moved : Moved c d) (sound : c.Sound) : d.Sound := by
  cases moved with
  | same unchanged => exact unchanged ▸ sound
  | published s => exact sound.publish s
  | subscribed => exact sound.subscribe
  | unsubscribed n => exact sound.unsubscribe n

theorem nextId_le_of_moved {c d : Channel} (moved : Moved c d) : c.nextId ≤ d.nextId := by
  cases moved with
  | same unchanged => exact unchanged ▸ Nat.le_refl _
  | published s => exact Nat.le_refl _
  | subscribed => exact Nat.le_succ _
  | unsubscribed n => exact Nat.le_refl _

/-! ### What a replica's convergence depends on -/

/-- Content, index and last report are as before. -/
structure Unmoved (f : Fleet) (k : Nat) (id : String) (g : Fleet) : Prop where
  relations : g.relations = f.relations
  index : g.indexOf k = f.indexOf k
  report : g.telemetry.lastReport id = f.telemetry.lastReport id

theorem unmoved_handler {a : Action}
    (noWrite : ∀ change fact, a ≠ .write change fact)
    (swaps : ∀ index, a = .swapIndex index → j ≠ k)
    (reports : ∀ t success, a = .note t → t.report? ≠ some (id, success)) :
    Unmoved f j id (handler k a f).2 where
  relations := handler_relations f noWrite
  index := by
    by_cases swap : ∃ index, a = .swapIndex index
    · obtain ⟨index, rfl⟩ := swap
      have other := (framed_handler k (.swapIndex index) f).others j (swaps index rfl)
      simp only [indexOf, other]
    · exact indexOf_congr (keeps_handler f noWrite fun index same => swap ⟨index, same⟩).members
  report := by
    by_cases note : ∃ t, a = .note t
    · obtain ⟨t, rfl⟩ := note
      exact Telemetry.lastReport_cons f.telemetry fun success => reports t success rfl
    · rw [telemetry_handler f fun t same => note ⟨t, same⟩]

theorem unmoved_of_aloof {a : Action} (aloof : a.bears = false) :
    Unmoved f j id (handler k a f).2 := by
  refine unmoved_handler ?_ ?_ ?_
  · rintro change fact rfl
    cases aloof
  · rintro index rfl
    cases aloof
  · rintro t success rfl
    cases aloof

end Fleet

/-! ### Stages against the fleet -/

namespace Stage

open Fleet (Unmoved handler)

variable {k : Nat} {id : String} {f g : Fleet}

/-- What a rebuild has in hand so far is not outdated. When no rebuild is under way, the index is
current unless the last rebuild was reported to have failed. -/
def Timely (f : Fleet) (k : Nat) (id : String) : Stage → Prop
  | idle | due | reported => f.Current k ∨ f.Failing id
  | begun | stopped => True
  | asked grants => grants = f.relations.query .allGrants
  | built index => index = f.relations.index
  | swapped => f.Current k

theorem Timely.of_unmoved {stage : Stage} (timely : stage.Timely f k id)
    (unmoved : Unmoved f k id g) : stage.Timely g k id := by
  have current : g.Current k ↔ f.Current k := by
    rw [Fleet.Current, Fleet.Current, unmoved.index, unmoved.relations]
  have failing : g.Failing id ↔ f.Failing id := by
    rw [Fleet.Failing, Fleet.Failing, unmoved.report]
  cases stage with
  | idle | due | reported => exact timely.imp current.mpr failing.mpr
  | begun | stopped => trivial
  | asked grants => exact timely.trans (by rw [unmoved.relations])
  | built index => exact timely.trans (by rw [unmoved.relations])
  | swapped => exact current.mpr timely

end Stage

namespace Lawful

open Fleet (Unmoved handler)

variable {k j : Nat} {id other : String} {f : Fleet} {a : Action} {answer : a.Answer}
  {st later : Stand}

/-- A silent action changes nothing that matters to anybody. -/
theorem unmoved_of_silent (silent : a.Silent) :
    Unmoved f j other (handler k a f).2 := by
  refine Fleet.unmoved_handler ?_ ?_ ?_
  · rintro change fact rfl
    exact silent
  · rintro index rfl
    exact silent.elim
  · rintro t success rfl
    have unreported : t.report? = none := silent
    simp [unreported]

/-- An action either leaves replica `j` as it was or is an accepted write. What a rebuild does to
its own replica is left aside. -/
theorem unmoved_or_written (lawful : Lawful id st a answer later) (mild : f.Mild)
    (answered : (handler k a f).1 = answer)
    (apart : st.stage.holds = true → j ≠ k ∧ other ≠ id) :
    Unmoved f j other (handler k a f).2 ∨ later.stage = .due ∧ later.owes = true := by
  cases lawful with
  | silent _ _ silent => exact .inl (unmoved_of_silent silent)
  | written change fact => exact .inr ⟨rfl, rfl⟩
  | refused change fact cause =>
    left
    refine ⟨mild.relations_of_refused answered, ?_, ?_⟩
    · exact Fleet.indexOf_congr (Fleet.keeps_write change fact f).members
    · exact congrArg (Telemetry.lastReport other) (Fleet.carries_handler f rfl).telemetry
  | swapped index =>
    refine .inl (Fleet.unmoved_handler nofun ?_ nofun)
    exact fun _ _ => (apart rfl).1
  | succeeded =>
    refine .inl (Fleet.unmoved_handler nofun nofun ?_)
    rintro _ success ⟨rfl⟩ same
    cases same
    exact (apart rfl).2 rfl
  | failed cause =>
    refine .inl (Fleet.unmoved_handler nofun nofun ?_)
    rintro _ success ⟨rfl⟩ same
    cases same
    exact (apart rfl).2 rfl
  | locked | asked | built | stopped | released | told | opened | unopened | closed =>
    exact .inl (Fleet.unmoved_of_aloof rfl)

/-- While a rebuild holds the lock, each of its actions keeps what it has in hand timely. -/
theorem timely (lawful : Lawful id st a answer later) (serves : f.Serves k)
    (answered : (handler k a f).1 = answer) (holds : st.stage.holds = true)
    (timely : st.stage.Timely f k id) : later.stage.Timely (handler k a f).2 k id := by
  cases lawful with
  | silent _ _ silent => exact timely.of_unmoved (unmoved_of_silent silent)
  | asked grants =>
    rcases Fleet.query_cases serves.honest .allGrants with answer | ⟨effect, -, refused⟩
    · simp only [Stage.Timely, handler, Fleet.query_relations]
      exact Except.ok.inj (answered.symm.trans answer)
    · cases answered.symm.trans refused
  | built grants assignments =>
    rcases Fleet.query_cases serves.honest .allAssignments with answer | ⟨effect, -, refused⟩
    · have same := Except.ok.inj (answered.symm.trans answer)
      simp only [Stage.Timely] at timely
      simp only [Stage.Timely, handler, Fleet.query_relations, same, timely]
      exact Relations.ofAnswers_query f.relations
    · cases answered.symm.trans refused
  | stopped => trivial
  | swapped index =>
    simp only [Stage.Timely] at timely ⊢
    subst timely
    exact Fleet.indexOf_swapIndex serves.present _
  | succeeded => exact .inl timely
  | failed cause =>
    right
    exact (Telemetry.lastReport_report f.telemetry rfl).trans (if_pos rfl)
  | released => exact timely
  | written | refused | told | opened | unopened | closed => cases holds
  | locked => trivial

/-- Until it has told of its write, a call goes on owing it. -/
theorem owes_or_published (lawful : Lawful id st a answer later) (mild : f.Mild)
    (owes : st.owes = true) :
    later.owes = true ∨ (handler k a f).2.channel = f.channel.publish ⟨id⟩ := by
  cases lawful with
  | told => exact .inr (Fleet.carries_publish mild ⟨id⟩).channel
  | silent | locked | asked | built | stopped | swapped | succeeded | failed | released =>
    exact .inl owes
  | written | refused | opened | unopened | closed => cases owes

theorem due_or_begun (lawful : Lawful id st a answer later) (due : st.stage = .due) :
    later.stage = .due ∨ later.stage = .begun := by
  cases lawful with
  | silent => exact .inl due
  | locked => exact .inr rfl
  | stopped asking =>
    simp only at due
    rcases asking with same | ⟨grants, same⟩ <;> cases due.symm.trans same
  | _ => cases due

/-- A subscription is new when it is opened, and a rebuild follows. -/
theorem subscription_cases (lawful : Lawful id st a answer later)
    (answered : (handler k a f).1 = answer) {sub : Nat} (has : later.subscription = some sub) :
    st.subscription = some sub ∨
      later.stage = .due ∧ sub = f.channel.nextId ∧ (handler k a f).2.channel.nextId = sub + 1 := by
  cases lawful with
  | opened n =>
    obtain rfl : n = sub := Option.some.inj has
    rcases Fleet.subscribe_cases f with ⟨opened, carries⟩ | ⟨cause, refused, -⟩
    · obtain rfl : n = f.channel.nextId := Except.ok.inj (answered.symm.trans opened)
      exact .inr ⟨rfl, rfl, congrArg Channel.nextId carries.channel⟩
    · cases answered.symm.trans refused
  | unopened | closed => cases has
  | _ => exact .inl has

/-- Only a query that is struck stops a rebuild. -/
theorem stopped_cases (lawful : Lawful id st a answer later) (honest : f.rigged = none)
    (answered : (handler k a f).1 = answer) (stops : later.stage = .stopped) :
    st.stage = .stopped ∨ ∃ effect, f.Armed .query effect := by
  cases lawful with
  | silent => exact .inl stops
  | stopped asking pattern cause =>
    rcases Fleet.query_cases honest pattern with answer | ⟨effect, armed, -⟩
    · cases answered.symm.trans answer
    · exact .inr ⟨effect, armed⟩
  | _ => cases stops

/-- Only a rebuild that has stopped is reported to have failed. -/
theorem failing_cases (lawful : Lawful id st a answer later)
    (failing : (handler k a f).2.Failing other) : f.Failing other ∨ st.stage = .stopped := by
  by_cases note : ∃ t, a = .note t
  · obtain ⟨t, rfl⟩ := note
    cases lawful with
    | silent _ _ silent =>
      left
      rwa [Fleet.Failing, (unmoved_of_silent (j := k) silent).report] at failing
    | succeeded =>
      left
      rw [Fleet.Failing, handler, Fleet.note, Telemetry.lastReport_report _ rfl] at failing
      split at failing
      · cases failing
      · exact failing
    | failed => exact .inr rfl
  · left
    rwa [Fleet.Failing, Fleet.telemetry_handler f fun t same => note ⟨t, same⟩] at failing

end Lawful

end Entitlement
