import Entitlement.Proofs.Convergence

/-!
# Fleets at rest

Replicas that start with nothing under way, after any turns, when no call is half done: a watching
replica that has nothing left to receive lists exactly what is stored, provided that its last
rebuild succeeded. Without faults every rebuild does. A replica whose rebuild fails within a change
of its own gets no second chance from its own signal.
-/

namespace Entitlement

open Function (update)

namespace Traffic

variable {t u : Traffic} {stands later : Nat → Stand}

/-! ### Runs -/

/-- What every turn keeps, every run keeps. -/
theorem exists_of_play {I : Traffic → (Nat → Stand) → Prop}
    (keeps : ∀ {t u : Traffic} {stands : Nat → Stand} {turn : Turn}, I t stands →
      t.take turn = some u → ∃ later, I u later)
    {turns : List Turn} (start : I t stands) (played : t.play turns = some u) :
    ∃ later, I u later := by
  induction turns generalizing t stands with
  | nil => exact Option.some.inj played ▸ ⟨stands, start⟩
  | cons turn rest ih =>
    obtain ⟨next, taken, goesOn⟩ := Option.bind_eq_some_iff.mp played
    obtain ⟨between, kept⟩ := keeps start taken
    exact ih kept goesOn

section Gathered

variable {capacity : Nat} {relations : Relations} {replicas : List Member}
  {storeFaults : List (Fault Occasion StoreEffect)}
  {signalFaults : List (Fault Occasion SignalFailure)}

theorem ids_gathered {k : Nat} {me : Profile}
    (present : (gathered capacity relations replicas storeFaults signalFaults).fleet.profile? k =
      some me) : (replicas.map (·.profile.id))[k]? = some me.id := by
  obtain ⟨m, found, rfl⟩ := Option.map_eq_some_iff.mp present
  simp only [gathered, Fleet.member?, List.getElem?_map] at found
  rw [List.getElem?_map]
  cases here : replicas[k]? with
  | none => rw [here] at found; cases found
  | some member => rw [here] at found; cases found; rfl

theorem fit_gathered (distinct : (replicas.map (·.profile.id)).Nodup)
    (named : "" ∉ replicas.map (·.profile.id))
    (inert : ∀ fault ∈ storeFaults, fault.effect.persists = false)
    (heard : ∀ fault ∈ signalFaults, fault.trigger.point ≠ .publish) :
    (gathered capacity relations replicas storeFaults signalFaults).fleet.Fit where
  honest := rfl
  mild := ⟨inert, heard⟩
  sound := Channel.sound_opened capacity
  named k me present anonymous :=
    named (anonymous ▸ List.mem_of_getElem? (ids_gathered present))
  distinct j k one two here there same := by
    have left := ids_gathered here
    have right := ids_gathered there
    exact (List.getElem?_inj (List.getElem?_eq_some_iff.mp left).1 distinct).mp
      (left.trans (same ▸ right.symm))

/-- Before anything has happened there is nothing to keep. -/
theorem converging_gathered
    (fit : (gathered capacity relations replicas storeFaults signalFaults).fleet.Fit) :
    (gathered capacity relations replicas storeFaults signalFaults).Converging fun _ => .rest where
  fit := fit
  obedient := fun _ _ _ entry => nomatch entry.1
  exclusive := ⟨fun _ _ _ entry => (nomatch entry.1), fun _ _ _ _ _ _ entry => nomatch entry.1⟩
  attended := nofun
  known := fun _ _ ⟨_, _, _, entry, _⟩ => nomatch entry.1
  owner := fun _ _ _ ⟨_, _, _, entry, _⟩ => nomatch entry.1
  provided := fun _ _ _ ⟨_, _, _, entry, _⟩ => nomatch entry.1

end Gathered

/-! ### Without faults -/

/-- No fault is armed on the store, and no rebuild has failed or is about to. -/
structure Calm (t : Traffic) (stands : Nat → Stand) : Prop where
  quiet : t.fleet.Quiet
  unstopped : ∀ n task st, t.At stands n task st → st.stage ≠ .stopped
  succeeding : ∀ id, ¬ t.fleet.Failing id

theorem Calm.added (calm : t.Calm stands) {new : Task} {stand : Stand}
    (tasks : u.tasks = t.tasks ++ [new]) (quiet : u.fleet.Quiet) (going : stand.stage ≠ .stopped)
    (reports : ∀ id, u.fleet.telemetry.lastReport id = t.fleet.telemetry.lastReport id) :
    u.Calm (update stands t.tasks.length stand) where
  quiet := quiet
  unstopped n task st entry := by
    rcases (at_added tasks).mp entry with kept | ⟨-, -, rfl⟩
    · exact calm.unstopped n task st kept
    · exact going
  succeeding id failing := calm.succeeding id ((reports id).symm.trans failing)

theorem Calm.moves (calm : t.Calm stands) (fit : t.fleet.Fit) (moves : t.Moves stands u later) :
    u.Calm later := by
  cases moves with
  | begun => exact calm.added rfl calm.quiet nofun fun _ => rfl
  | heard =>
    refine calm.added rfl ?_ ?_ fun id => (Fleet.unmoved_receive _ _ 0 id).report
    · exact calm.quiet.of_framed (k := 0) (.of_keeps (Fleet.keeps_receive _ _))
    · split <;> nofun
  | @gone n a me old new stand u goes =>
    obtain ⟨watchers, fleet⟩ := goes.exists_fleet
    have going := calm.unstopped n old _ goes.before
    constructor
    case quiet =>
      have quiet := calm.quiet.of_framed (Fleet.framed_handler old.member a t.fleet)
      rw [fleet]
      exact quiet
    case unstopped =>
      intro i other st entry stopped
      rcases goes.at_iff.mp entry with ⟨-, kept⟩ | ⟨-, rfl, rfl⟩
      · exact calm.unstopped i other st kept stopped
      · rcases goes.lawful.stopped_cases fit.honest rfl stopped with before | ⟨effect, armed⟩
        · exact going before
        · exact calm.quiet.not_armed armed
    case succeeding =>
      intro id failing
      rw [fleet] at failing
      rcases goes.lawful.failing_cases failing with before | stopped
      · exact calm.succeeding id before
      · exact going stopped

theorem calm_gathered {capacity : Nat} {relations : Relations} {replicas : List Member} :
    (gathered capacity relations replicas).Calm fun _ => .rest where
  quiet := rfl
  unstopped _ _ _ entry := nomatch entry.1
  succeeding _ := nofun

/-! ### Main results -/

section Results

variable {capacity : Nat} {relations : Relations} {replicas : List Member} {turns : List Turn}
  {w : Watcher}

/-- Whatever the replicas do and however their calls and watchers interleave: when no call is half
done and a watching replica has nothing left to receive, its index lists exactly what is stored.
No replica has the empty id, which stands for an unknown origin. -/
theorem current_of_atRest (distinct : (replicas.map (·.profile.id)).Nodup)
    (named : "" ∉ replicas.map (·.profile.id))
    (played : (gathered capacity relations replicas).play turns = some t) (rest : t.AtRest)
    (watching : w ∈ t.fleet.watchers)
    (caughtUp : (t.fleet.receive w.subscription).1 = .pending) : t.fleet.Current w.member := by
  have fit : (gathered capacity relations replicas).fleet.Fit :=
    fit_gathered distinct named (List.forall_mem_nil _) (List.forall_mem_nil _)
  obtain ⟨stands, converging, calm⟩ := exists_of_play
    (I := fun t stands => t.Converging stands ∧ t.Calm stands)
    (fun ⟨converging, calm⟩ taken => by
      obtain ⟨later, moves, kept⟩ := converging.take taken
      exact ⟨later, kept, calm.moves converging.fit moves⟩)
    ⟨converging_gathered fit, calm_gathered⟩ played
  obtain ⟨me, -, timely⟩ := converging.timely_of_atRest rest watching caughtUp
  exact timely.resolve_right (calm.succeeding me.id)

/-- Replica `b` begins to watch when `a` has stored a change and not yet told of it. -/
def lateWatch : List Turn :=
  [.begins 0 (.change .insert (.assignment ⟨"alice", "viewer", "docs"⟩)), .goes 0,
    .begins 1 .watch] ++ List.replicate 9 (.goes 1) ++ List.replicate 9 (.goes 0) ++
  [.hears ⟨1, 0⟩] ++ List.replicate 8 (.goes 2)

/-- Replicas `a` and `b`, whose indexes list the content. -/
def pair (relations : Relations) : List Member :=
  [⟨{ id := "a" }, relations.index⟩, ⟨{ id := "b" }, relations.index⟩]

theorem current_of_atRest_late :
    ∃ t, (gathered 1 .empty (pair .empty)).play lateWatch = some t ∧ t.AtRest ∧
      ⟨1, 0⟩ ∈ t.fleet.watchers ∧ (t.fleet.receive 0).1 = .pending ∧
      t.fleet.relations.Holds (.assignment ⟨"alice", "viewer", "docs"⟩) ∧ t.fleet.Current 1 := by
  have course : ((gathered 1 .empty (pair .empty)).play lateWatch).any (fun t =>
      decide (t.AtRest ∧ ⟨1, 0⟩ ∈ t.fleet.watchers ∧ (t.fleet.receive 0).1 = .pending ∧
        t.fleet.relations.Holds (.assignment ⟨"alice", "viewer", "docs"⟩))) = true := by
    decide +kernel
  obtain ⟨t, played, fits⟩ := (Option.any_eq_true _ _).mp course
  obtain ⟨rest, watching, caughtUp, stored⟩ := of_decide_eq_true fits
  have distinct : ((pair .empty).map (·.profile.id)).Nodup := by decide
  have named : "" ∉ (pair .empty).map (·.profile.id) := by decide
  exact ⟨t, played, rest, watching, caughtUp, stored,
    current_of_atRest distinct named played rest watching caughtUp⟩

/-- With faults that let every publication pass and no refused write take effect, a watching
replica at rest that has nothing left to receive lists exactly what is stored, unless the last
rebuild that it reported has failed. -/
theorem current_or_failing_of_atRest {storeFaults : List (Fault Occasion StoreEffect)}
    {signalFaults : List (Fault Occasion SignalFailure)}
    (distinct : (replicas.map (·.profile.id)).Nodup) (named : "" ∉ replicas.map (·.profile.id))
    (inert : ∀ fault ∈ storeFaults, fault.effect.persists = false)
    (heard : ∀ fault ∈ signalFaults, fault.trigger.point ≠ .publish)
    (played : (gathered capacity relations replicas storeFaults signalFaults).play turns = some t)
    (rest : t.AtRest) (watching : w ∈ t.fleet.watchers)
    (caughtUp : (t.fleet.receive w.subscription).1 = .pending) :
    ∃ me, t.fleet.profile? w.member = some me ∧
      (t.fleet.Current w.member ∨ t.fleet.Failing me.id) := by
  obtain ⟨stands, converging⟩ := exists_of_play (I := Converging)
    (fun converging taken => by
      obtain ⟨later, -, kept⟩ := converging.take taken
      exact ⟨later, kept⟩)
    (converging_gathered (fit_gathered distinct named inert heard)) played
  exact converging.timely_of_atRest rest watching caughtUp

end Results

/-- Both replicas watch, `a` takes a role from Alice, and the store does not answer the rebuild
after that. Then `a` passes over its own signal, and `b` follows it. -/
def failedRevocation : List Turn :=
  [.begins 0 .watch] ++ List.replicate 9 (.goes 0) ++
  [.begins 1 .watch] ++ List.replicate 9 (.goes 1) ++
  [.begins 0 (.request (.unassign "alice" "viewer" "docs"))] ++ List.replicate 7 (.goes 2) ++
  [.hears ⟨0, 0⟩, .hears ⟨1, 1⟩] ++ List.replicate 8 (.goes 4)

/-- The store holds one assignment and fails the fifth query, which is the first of the rebuild of
the change. -/
def failingOnce : Traffic :=
  let stored : Relations := .ofFacts [.assignment ⟨"alice", "viewer", "docs"⟩]
  gathered 16 stored (pair stored)
    [{ trigger := { point := .query }, skip := 4, times := some 1,
       effect := { failure := .unavailable "down" } }]

theorem current_or_failing_of_atRest_pair :
    ∃ t, failingOnce.play failedRevocation = some t ∧
      ∀ w ∈ t.fleet.watchers, ∃ me, t.fleet.profile? w.member = some me ∧
        (t.fleet.Current w.member ∨ t.fleet.Failing me.id) := by
  have course : (failingOnce.play failedRevocation).any (fun t =>
      decide (t.AtRest ∧ ∀ w ∈ t.fleet.watchers,
        (t.fleet.receive w.subscription).1 = .pending)) = true := by decide +kernel
  obtain ⟨t, played, fits⟩ := (Option.any_eq_true _ _).mp course
  obtain ⟨rest, caughtUp⟩ := of_decide_eq_true fits
  refine ⟨t, played, fun w watching => ?_⟩
  exact current_or_failing_of_atRest (by decide) (by decide) (by decide) (by decide) played rest
    watching (caughtUp w watching)

/-- All rebuilds but that of the change succeed and everybody has heard of the change, yet replica
`a` goes on listing the role that was taken from Alice. -/
theorem not_current_of_atRest :
    ∃ t, failingOnce.play failedRevocation = some t ∧ t.AtRest ∧
      t.fleet.watchers = [⟨0, 0⟩, ⟨1, 1⟩] ∧
      (∀ w ∈ t.fleet.watchers, (t.fleet.receive w.subscription).1 = .pending) ∧
      t.fleet.telemetry.filterMap Trace.report? =
        [("b", true), ("a", false), ("b", true), ("a", true)] ∧
      ¬ t.fleet.relations.Holds (.assignment ⟨"alice", "viewer", "docs"⟩) ∧
      "viewer" ∈ (t.fleet.indexOf 0).rolesOf "alice" "docs" ∧
      ¬ t.fleet.Current 0 ∧ t.fleet.Current 1 := by
  have course : (failingOnce.play failedRevocation).any (fun t =>
      decide (t.AtRest ∧ t.fleet.watchers = [⟨0, 0⟩, ⟨1, 1⟩] ∧
        (∀ w ∈ t.fleet.watchers, (t.fleet.receive w.subscription).1 = .pending) ∧
        t.fleet.telemetry.filterMap Trace.report? =
          [("b", true), ("a", false), ("b", true), ("a", true)] ∧
        ¬ t.fleet.relations.Holds (.assignment ⟨"alice", "viewer", "docs"⟩) ∧
        "viewer" ∈ (t.fleet.indexOf 0).rolesOf "alice" "docs" ∧
        ¬ t.fleet.Current 0 ∧ t.fleet.Current 1)) = true := by decide +kernel
  obtain ⟨t, played, fits⟩ := (Option.any_eq_true _ _).mp course
  exact ⟨t, played, of_decide_eq_true fits⟩

end Traffic

end Entitlement
