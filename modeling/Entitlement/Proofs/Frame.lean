import Entitlement.Fleet

/-!
# What a replica's work leaves alone

Whatever replica `k` does, the other replicas keep their indexes, every replica stays who it is,
the store goes on answering as it did, and faults are only used up: none is armed and none changes
what it strikes or how.
-/

namespace Entitlement

namespace Fault

variable {τ ε : Type}

/-- Every fault of `later` is one of `earlier`, up to the counts of its passes and strikes. -/
def LeftOf (earlier later : List (Fault τ ε)) : Prop :=
  ∀ g ∈ later, ∃ f ∈ earlier, f.trigger = g.trigger ∧ f.effect = g.effect

theorem LeftOf.refl (faults : List (Fault τ ε)) : LeftOf faults faults :=
  fun g member => ⟨g, member, rfl, rfl⟩

theorem LeftOf.trans {first second third : List (Fault τ ε)} (one : LeftOf first second)
    (two : LeftOf second third) : LeftOf first third := by
  intro h member
  obtain ⟨g, inSecond, sameTrigger, sameEffect⟩ := two h member
  obtain ⟨f, inFirst, trigger, effect⟩ := one g inSecond
  exact ⟨f, inFirst, trigger.trans sameTrigger, effect.trans sameEffect⟩

/-- The head may have lost a pass or a strike, the rest is what is left of the rest. -/
theorem LeftOf.cons {f g : Fault τ ε} {earlier later : List (Fault τ ε)}
    (trigger : f.trigger = g.trigger) (effect : f.effect = g.effect)
    (rest : LeftOf earlier later) : LeftOf (f :: earlier) (g :: later) := by
  intro h member
  rcases List.mem_cons.mp member with rfl | inLater
  · exact ⟨f, List.mem_cons_self, trigger, effect⟩
  · obtain ⟨e, inEarlier, same⟩ := rest h inLater
    exact ⟨e, List.mem_cons_of_mem _ inEarlier, same⟩

theorem leftOf_strike (fits : τ → Bool) (faults : List (Fault τ ε)) :
    LeftOf faults (strike fits faults).2 := by
  induction faults with
  | nil => exact .refl []
  | cons f rest ih =>
    simp only [strike]
    split
    · split
      -- It lets the call pass.
      · exact .cons rfl rfl ih
      -- It strikes for good.
      · exact .refl _
      -- It is used up.
      · exact .cons rfl rfl ih
      -- It strikes once less from now on.
      · exact .cons rfl rfl (.refl rest)
    · exact .cons rfl rfl ih

end Fault

namespace Fleet

/-- The part of the fleet that no action of replica `k` touches. -/
structure Framed (k : Nat) (f g : Fleet) : Prop where
  rigged : g.rigged = f.rigged
  profiles : ∀ j, (g.member? j).map (·.profile) = (f.member? j).map (·.profile)
  others : ∀ j, j ≠ k → g.member? j = f.member? j
  storeFaults : Fault.LeftOf f.storeFaults g.storeFaults
  signalFaults : Fault.LeftOf f.signalFaults g.signalFaults

variable {k : Nat} {f g h : Fleet}

theorem Framed.refl (f : Fleet) : Framed k f f :=
  ⟨rfl, fun _ => rfl, fun _ _ => rfl, .refl _, .refl _⟩

theorem Framed.trans (one : Framed k f g) (two : Framed k g h) : Framed k f h where
  rigged := two.rigged.trans one.rigged
  profiles j := (two.profiles j).trans (one.profiles j)
  others j other := (two.others j other).trans (one.others j other)
  storeFaults := one.storeFaults.trans two.storeFaults
  signalFaults := one.signalFaults.trans two.signalFaults

/-! ### Actions that leave the replicas alone -/

/-- `g` is `f` with the content `r`, but for faults that were used up and for records. -/
structure Keeps (f : Fleet) (r : Relations) (g : Fleet) : Prop where
  relations : g.relations = r
  rigged : g.rigged = f.rigged
  members : g.members = f.members
  storeFaults : Fault.LeftOf f.storeFaults g.storeFaults
  signalFaults : Fault.LeftOf f.signalFaults g.signalFaults

theorem Keeps.refl (f : Fleet) : Keeps f f.relations f :=
  ⟨rfl, rfl, rfl, .refl _, .refl _⟩

/-- The journal, the registry, the channel and the telemetry are free. -/
theorem Keeps.of_records {r : Relations} (keeps : Keeps f r g)
    (relations : h.relations = g.relations) (rigged : h.rigged = g.rigged)
    (members : h.members = g.members) (storeFaults : h.storeFaults = g.storeFaults)
    (signalFaults : h.signalFaults = g.signalFaults) : Keeps f r h where
  relations := relations.trans keeps.relations
  rigged := rigged.trans keeps.rigged
  members := members.trans keeps.members
  storeFaults := storeFaults ▸ keeps.storeFaults
  signalFaults := signalFaults ▸ keeps.signalFaults

theorem Framed.of_keeps {r : Relations} (keeps : Keeps f r g) : Framed k f g where
  rigged := keeps.rigged
  profiles j := by simp only [member?, keeps.members]
  others j _ := by simp only [member?, keeps.members]
  storeFaults := keeps.storeFaults
  signalFaults := keeps.signalFaults

theorem keeps_strikeStore (call : Occasion) (f : Fleet) :
    Keeps f f.relations (f.strikeStore call).2 :=
  ⟨rfl, rfl, rfl, Fault.leftOf_strike _ _, .refl _⟩

theorem keeps_strikeSignal (call : Occasion) (f : Fleet) :
    Keeps f f.relations (f.strikeSignal call).2 :=
  ⟨rfl, rfl, rfl, .refl _, Fault.leftOf_strike _ _⟩

theorem keeps_write (change : Change) (fact : Fact) (f : Fleet) :
    Keeps f (f.write change fact).2.relations (f.write change fact).2 := by
  have struck := keeps_strikeStore (.ofWrite change fact) f
  unfold write
  split <;> next met =>
    rw [met] at struck
    exact ⟨rfl, struck.rigged, struck.members, struck.storeFaults, struck.signalFaults⟩

theorem keeps_query (pattern : FactPattern) (f : Fleet) :
    Keeps f f.relations (f.query pattern).2 := by
  have struck := keeps_strikeStore (.ofQuery pattern) f
  unfold query
  split <;> next met =>
    rw [met] at struck
    exact struck.of_records rfl rfl rfl rfl rfl

theorem keeps_probe (f : Fleet) :
    Keeps f f.relations f.probe.2 := by
  have struck := keeps_strikeStore { point := .probe } f
  unfold probe
  split <;> next met =>
    rw [met] at struck
    exact struck.of_records rfl rfl rfl rfl rfl

theorem keeps_register (record : Namespace) (f : Fleet) :
    Keeps f f.relations (f.register record).2 := by
  have struck := keeps_strikeStore { point := .register } f
  unfold register
  split <;> next met =>
    rw [met] at struck
    exact struck.of_records rfl rfl rfl rfl rfl

theorem keeps_listing (w : Window) (f : Fleet) :
    Keeps f f.relations (f.listing w).2 := by
  have struck := keeps_strikeStore { point := .listing } f
  unfold listing
  split <;> next met =>
    rw [met] at struck
    exact struck.of_records rfl rfl rfl rfl rfl

theorem keeps_publish (s : Signal) (f : Fleet) :
    Keeps f f.relations (f.publish s).2 := by
  have struck := keeps_strikeSignal { point := .publish } f
  unfold publish
  split <;> next met =>
    rw [met] at struck
    exact struck.of_records rfl rfl rfl rfl rfl

theorem keeps_subscribe (f : Fleet) :
    Keeps f f.relations f.subscribe.2 := by
  have struck := keeps_strikeSignal { point := .subscribe } f
  unfold subscribe
  split <;> next met =>
    rw [met] at struck
    exact struck.of_records rfl rfl rfl rfl rfl

/-- Only a write changes the content, and only a swap an index. -/
theorem keeps_handler {a : Action} (f : Fleet) (noWrite : ∀ change fact, a ≠ .write change fact)
    (noSwap : ∀ index, a ≠ .swapIndex index) : Keeps f f.relations (handler k a f).2 := by
  cases a with
  | write change fact => exact absurd rfl (noWrite change fact)
  | swapIndex index => exact absurd rfl (noSwap index)
  | query pattern => exact keeps_query pattern f
  | probe => exact keeps_probe f
  | publish s => exact keeps_publish s f
  | subscribe => exact keeps_subscribe f
  | register record => exact keeps_register record f
  | listing w => exact keeps_listing w f
  | acquireLock => exact .refl f
  | releaseLock => exact .refl f
  | readIndex => exact .refl f
  | unsubscribe id => exact (Keeps.refl f).of_records rfl rfl rfl rfl rfl
  | note t => exact (Keeps.refl f).of_records rfl rfl rfl rfl rfl

/-! ### Any action -/

theorem member?_swapIndex (k j : Nat) (index : Index) (f : Fleet) :
    (f.swapIndex k index).member? j =
      if k = j then (f.member? j).map fun m => { m with index } else f.member? j := by
  simp only [member?, swapIndex, List.getElem?_modify]
  split <;> cases f.members[j]? <;> simp

theorem framed_swapIndex (k : Nat) (index : Index) (f : Fleet) :
    Framed k f (f.swapIndex k index) where
  rigged := rfl
  profiles j := by
    rw [member?_swapIndex]
    split
    · simp [Function.comp_def]
    · rfl
  others j other := by rw [member?_swapIndex, if_neg other.symm]
  storeFaults := .refl _
  signalFaults := .refl _

theorem framed_handler (k : Nat) (a : Action) (f : Fleet) : Framed k f (handler k a f).2 := by
  by_cases swaps : ∃ index, a = .swapIndex index
  · obtain ⟨index, rfl⟩ := swaps
    exact framed_swapIndex k index f
  by_cases writes : ∃ change fact, a = .write change fact
  · obtain ⟨change, fact, rfl⟩ := writes
    exact .of_keeps (keeps_write change fact f)
  -- Whatever is left changes neither the content nor an index.
  refine .of_keeps (keeps_handler f ?_ ?_)
  · exact fun change fact same => writes ⟨change, fact, same⟩
  · exact fun index same => swaps ⟨index, same⟩

/-- A whole call keeps the frame, by induction on its actions. -/
theorem framed_run {α : Type} (k : Nat) (call : Call α) (f : Fleet) :
    Framed k f (call.run (handler k) f).2 := by
  induction call generalizing f with
  | done value => exact .refl f
  | act a next ih => exact (framed_handler k a f).trans (ih _ _)

end Fleet

end Entitlement
