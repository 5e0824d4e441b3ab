import Entitlement.Cluster.Start
import Entitlement.Proofs.Steady

/-!
# A replica of its own

A replica that keeps its facts in memory and its signals to itself waits for nobody, so nothing else
in its cluster matters to its calls. It behaves as the only replica of a fleet without faults.
-/

namespace Entitlement

/-- Without faults the store answers at once. -/
theorem Fleet.strikeStore_of_quiet {f : Fleet} (quiet : f.Quiet) (call : Occasion) :
    f.strikeStore call = (none, f) := by
  obtain ⟨_⟩ := f
  obtain rfl := quiet
  rfl

theorem Fleet.strikeSignal_of_calm {f : Fleet} (calm : f.signalFaults = []) (call : Occasion) :
    f.strikeSignal call = (none, f) := by
  obtain ⟨_⟩ := f
  obtain rfl := calm
  rfl

namespace Cluster

variable {c : Cluster} {k : Nat} {me : Profile} {f : Fleet}

theorem node_modifyNode (inside : k < c.nodes.length) (g : Node → Node) :
    (c.modifyNode k g).node k = g (c.node k) := by
  simp [node, modifyNode, inside]

/-- Replica `k` works in memory alone, and what it has is what the only replica of the fleet has. -/
structure Alone (c : Cluster) (k : Nat) (me : Profile) (f : Fleet) : Prop where
  inside : k < c.nodes.length
  profile : (c.node k).profile = me
  backing : (c.node k).backing = .memory f.relations
  outlet : (c.node k).outlet = .broadcast f.channel
  registry : (c.node k).registry = f.registry
  member : f.member? 0 = some ⟨me, (c.node k).index⟩
  honest : f.rigged = none
  quiet : f.Quiet
  calm : f.signalFaults = []

namespace Alone

theorem indexOf (alone : c.Alone k me f) : f.indexOf 0 = (c.node k).index := by
  simp [Fleet.indexOf, alone.member]

theorem serves (alone : c.Alone k me f) : f.Serves 0 :=
  ⟨alone.honest, by rw [alone.member]; rfl⟩

theorem channelOf (alone : c.Alone k me f) : c.channelOf k = f.channel := by
  simp [Cluster.channelOf, alone.outlet]

/-- It waits for nobody. -/
theorem waits (alone : c.Alone k me f) (a : Action) : c.waits k a = false := by
  cases a <;> simp [Cluster.waits, alone.backing, alone.outlet]

theorem note (alone : c.Alone k me f) (t : Trace) : (c.note t).Alone k me (f.note t) :=
  ⟨alone.inside, alone.profile, alone.backing, alone.outlet, alone.registry, alone.member,
    alone.honest, alone.quiet, alone.calm⟩

/-- A change of the replica that the fleet has made too. -/
theorem modified (alone : c.Alone k me f) {g : Node → Node} {h : Fleet}
    (profile : (g (c.node k)).profile = (c.node k).profile)
    (backing : (g (c.node k)).backing = .memory h.relations)
    (outlet : (g (c.node k)).outlet = .broadcast h.channel)
    (registry : (g (c.node k)).registry = h.registry)
    (member : h.member? 0 = some ⟨me, (g (c.node k)).index⟩) (honest : h.rigged = f.rigged)
    (quiet : h.storeFaults = f.storeFaults) (calm : h.signalFaults = f.signalFaults) :
    (c.modifyNode k g).Alone k me h := by
  have node := node_modifyNode alone.inside g
  refine ⟨?_, ?_, ?_, ?_, ?_, ?_, honest.trans alone.honest, quiet.trans alone.quiet,
    calm.trans alone.calm⟩
  · simpa [modifyNode] using alone.inside
  all_goals rw [node]
  · exact profile.trans alone.profile
  · exact backing
  · exact outlet
  · exact registry
  · exact member

theorem write (alone : c.Alone k me f) (change : Change) (fact : Fact) :
    (c.write k change fact).1 = (f.write change fact).1 ∧
      (c.write k change fact).2.Alone k me (f.write change fact).2 := by
  rw [Cluster.write, alone.backing, Fleet.write, Fleet.strikeStore_of_quiet alone.quiet]
  exact ⟨rfl, alone.modified rfl rfl alone.outlet alone.registry alone.member rfl rfl rfl⟩

theorem query (alone : c.Alone k me f) (pattern : FactPattern) :
    (c.query k pattern).1 = (f.query pattern).1 ∧
      (c.query k pattern).2.Alone k me (f.query pattern).2 := by
  rw [Cluster.query, alone.backing, Fleet.query, Fleet.strikeStore_of_quiet alone.quiet]
  refine ⟨?_, alone.inside, alone.profile, alone.backing, alone.outlet, alone.registry,
    alone.member, alone.honest, alone.quiet, alone.calm⟩
  simp [alone.honest]

theorem modifyChannel_eq (alone : c.Alone k me f) (g : Channel → Channel) :
    c.modifyChannel k g =
      c.modifyNode k fun n => { n with outlet := .broadcast (g f.channel) } := by
  rw [modifyChannel, alone.outlet]

theorem publish (alone : c.Alone k me f) (s : Signal) :
    (c.publish k s).1 = (f.publish s).1 ∧ (c.publish k s).2.Alone k me (f.publish s).2 := by
  simp only [Cluster.publish, alone.outlet, alone.modifyChannel_eq, Fleet.publish,
    Fleet.strikeSignal_of_calm alone.calm]
  exact ⟨trivial,
    alone.modified rfl alone.backing rfl alone.registry alone.member rfl rfl rfl⟩

theorem subscribe (alone : c.Alone k me f) :
    .ok (c.subscribe k).1 = f.subscribe.1 ∧ (c.subscribe k).2.Alone k me f.subscribe.2 := by
  simp only [Cluster.subscribe, alone.channelOf, alone.modifyChannel_eq, Fleet.subscribe,
    Fleet.strikeSignal_of_calm alone.calm]
  exact ⟨trivial,
    alone.modified rfl alone.backing rfl alone.registry alone.member rfl rfl rfl⟩

theorem register (alone : c.Alone k me f) (record : Namespace) :
    (c.register k record).1 = (f.register record).1 ∧
      (c.register k record).2.Alone k me (f.register record).2 := by
  rw [Cluster.register, alone.registry, Fleet.register, Fleet.strikeStore_of_quiet alone.quiet]
  exact ⟨rfl, alone.modified rfl alone.backing alone.outlet rfl alone.member rfl rfl rfl⟩

/-- Each action is answered as in the fleet and does the same as there. -/
theorem handler (alone : c.Alone k me f) (a : Action) :
    (Cluster.handler k a c).1 = (Fleet.handler 0 a f).1 ∧
      (Cluster.handler k a c).2.Alone k me (Fleet.handler 0 a f).2 := by
  cases a with
  | write change fact => exact alone.write change fact
  | query pattern => exact alone.query pattern
  | probe =>
    rw [Cluster.handler, Cluster.probe, alone.backing, Fleet.handler, Fleet.probe,
      Fleet.strikeStore_of_quiet alone.quiet]
    exact ⟨rfl, alone⟩
  | publish s => exact alone.publish s
  | subscribe => exact alone.subscribe
  | unsubscribe id =>
    rw [Cluster.handler, Cluster.unsubscribe, alone.modifyChannel_eq]
    exact ⟨rfl, alone.modified rfl alone.backing rfl alone.registry alone.member rfl rfl rfl⟩
  | register record => exact alone.register record
  | listing w =>
    rw [Cluster.handler, alone.registry, Fleet.handler, Fleet.listing,
      Fleet.strikeStore_of_quiet alone.quiet]
    exact ⟨rfl, alone⟩
  | acquireLock => exact ⟨rfl, alone⟩
  | releaseLock => exact ⟨rfl, alone⟩
  | readIndex => exact ⟨alone.indexOf.symm, alone⟩
  | swapIndex index =>
    refine ⟨rfl, alone.modified rfl alone.backing alone.outlet alone.registry ?_ rfl rfl rfl⟩
    simp [Fleet.handler, Fleet.member?_swapIndex, alone.member]
  | note t => exact ⟨rfl, alone.note t⟩

theorem callHandler (alone : c.Alone k me f) (a : Action) :
    (Cluster.callHandler k a c).1 = (Fleet.handler 0 a f).1 ∧
      (Cluster.callHandler k a c).2.Alone k me (Fleet.handler 0 a f).2 := by
  simp only [Cluster.callHandler, alone.waits, Bool.false_eq_true, if_false]
  exact alone.handler a

theorem run_call {α : Type} (alone : c.Alone k me f) (call : Call α) :
    (call.run (Cluster.callHandler k) c).1 = (call.run (Fleet.handler 0) f).1 ∧
      (call.run (Cluster.callHandler k) c).2.Alone k me (call.run (Fleet.handler 0) f).2 := by
  induction call generalizing c f with
  | done value => exact ⟨rfl, alone⟩
  | act a next ih =>
    obtain ⟨answer, later⟩ := alone.callHandler a
    simp only [Call.run_act]
    rw [answer]
    exact ih _ later

/-- A call of the replica is a call of the only replica of the fleet. -/
theorem run {α : Type} (alone : c.Alone k me f) (attempt : Attempt α) :
    (c.run k attempt).1 = (f.run 0 attempt).1 ∧
      (c.run k attempt).2.Alone k me (f.run 0 attempt).2 :=
  alone.run_call attempt.run

end Alone

/-! ### Its work -/

/-- What replica `k` makes of a cluster, action by action. The actions may be those of calls that
are served one after the other, or of calls that take turns. -/
inductive Worked (k : Nat) (start : Cluster) : Cluster → Prop
  | nothing : Worked k start start
  | acted {c : Cluster} (before : Worked k start c) (a : Action) :
      Worked k start (callHandler k a c).2

theorem Worked.run {α : Type} {start : Cluster} (before : Worked k start c) (attempt : Attempt α) :
    Worked k start (c.run k attempt).2 := by
  have after (call : Call (Except Failure α)) :
      Worked k start (call.run (callHandler k) c).2 := by
    induction call generalizing c with
    | done value => exact before
    | act a next ih => exact ih _ (before.acted a)
  exact after attempt.run

theorem Worked.exists_alone {start : Cluster} (worked : Worked k start c)
    (alone : start.Alone k me f) : ∃ g, c.Alone k me g := by
  induction worked with
  | nothing => exact ⟨f, alone⟩
  | acted before a ih =>
    obtain ⟨g, alone⟩ := ih
    exact ⟨_, (alone.callHandler a).2⟩

/-! ### Starting it -/

/-- A fleet of one replica over an empty store. -/
def fleetOf (me : Profile) (index : Index) : Fleet :=
  { channel := .opened broadcastCapacity, members := [some ⟨me, index⟩] }

/-- Settings that need no database are met without one. -/
theorem startParts_eq {s : Settings} (memory : s.storage = .memory)
    (broadcast : s.signalling = .broadcast) (c : Cluster) :
    c.startParts s =
      (.ok ⟨none, .memory .empty, .broadcast (.opened broadcastCapacity)⟩, c) := by
  simp [startParts, startPool, startBacking, startOutlet, memory, broadcast]

/-- The cluster with the new replica, which has no index yet. -/
def joined (id : String) (s : Settings) (c : Cluster) : Cluster :=
  { c.note (.event .storeIsVolatile) with
    nodes := c.nodes ++
      [{ profile := ⟨id, s.defaultDomain, s.adminRole⟩, backing := .memory .empty,
         outlet := .broadcast (.opened broadcastCapacity) }] }

theorem alone_joined (id : String) (s : Settings) (c : Cluster) :
    (c.joined id s).Alone c.nodes.length ⟨id, s.defaultDomain, s.adminRole⟩
      (fleetOf ⟨id, s.defaultDomain, s.adminRole⟩ .empty) := by
  have node : (c.joined id s).node c.nodes.length =
      { profile := ⟨id, s.defaultDomain, s.adminRole⟩, backing := .memory .empty,
        outlet := .broadcast (.opened broadcastCapacity) } := by
    simp [joined, Cluster.node]
  exact ⟨by simp [joined], congrArg Node.profile node, congrArg Node.backing node,
    congrArg Node.outlet node, congrArg Node.registry node, by rw [node]; rfl, rfl, rfl, rfl⟩

/-- The replica is started when its first index is loaded. -/
theorem start_eq_of_load (id : String) {s : Settings} (memory : s.storage = .memory)
    (broadcast : s.signalling = .broadcast) {index : Index} {loaded : Cluster}
    (loads : (c.joined id s).run c.nodes.length (Replica.load id "memory" "broadcast") =
      (.ok index, loaded)) :
    c.start id s =
      (.ok c.nodes.length, loaded.modifyNode c.nodes.length fun n => { n with index }) := by
  unfold joined at loads
  dsimp only [note] at loads
  simp only [start, startParts_eq memory broadcast, Backing.name, Outlet.name, note, loads]

theorem exists_alone_of_start (id : String) {s : Settings} (memory : s.storage = .memory)
    (broadcast : s.signalling = .broadcast) (c : Cluster) :
    ∃ started f, c.start id s = (.ok c.nodes.length, started) ∧
      started.Alone c.nodes.length ⟨id, s.defaultDomain, s.adminRole⟩ f := by
  obtain ⟨answer, loaded⟩ := (alone_joined id s c).run (Replica.load id "memory" "broadcast")
  have index : ((fleetOf ⟨id, s.defaultDomain, s.adminRole⟩ .empty).run 0
      (Replica.load id "memory" "broadcast")).1 = .ok Relations.empty.index := rfl
  have swapped := (loaded.handler (.swapIndex Relations.empty.index)).2
  exact ⟨_, _, start_eq_of_load id memory broadcast (Prod.ext (answer.trans index) rfl), swapped⟩

end Cluster

end Entitlement
