import Entitlement.Proofs.Chronicle
import Entitlement.Proofs.Refusal

/-!
# Registrations

The registry gives a name away once. Whoever creates a namespace is written into its record, and the
record stays as it is; who comes later with the same name is told of the conflict and does nothing
else. What becomes of the administrator's assignment does not matter to that.
-/

namespace Entitlement

namespace Registry

variable {r : Registry} {record other : Namespace}

/-- No two records bear one name. -/
theorem eq_of_name (one : record ∈ r) (two : other ∈ r) (same : record.name = other.name) :
    record = other := by
  have apart : (r.toList.map (·.name)).Nodup :=
    List.pairwise_map.mpr <| r.ascending.imp fun less equal => by
      rw [equal] at less
      exact List.lt_irrefl _ less
  exact List.inj_on_of_nodup_map apart one two same

theorem register_of_taken (taken : other ∈ r) (same : other.name = record.name) :
    r.register record = (.error (.conflict "namespace exists"), r) := by
  unfold register
  split
  · rfl
  · next free =>
    have apart := List.find?_eq_none.mp free other taken
    simp [same] at apart

theorem register_of_free (free : ∀ other ∈ r, other.name ≠ record.name) :
    r.register record = (.ok record, r.insert record) := by
  unfold register
  split
  · next other found =>
    have same := List.find?_some found
    exact absurd (by simpa using same) (free other (List.mem_of_find?_eq_some found))
  · rfl

theorem mem_insert_of_free (free : ∀ other ∈ r, other.name ≠ record.name) :
    other ∈ r.insert record ↔ other = record ∨ other ∈ r := by
  refine ⟨SortedBy.mem_of_mem_place, fun member => ?_⟩
  rcases member with rfl | member
  · -- What bears the key after the insertion is the new record.
    have there : ∃ placed ∈ SortedBy.place (fun n : Namespace => [n.name]) other r.toList,
        [placed.name] = [other.name] := SortedBy.exists_key_place other r.toList
    obtain ⟨placed, inside, key⟩ := there
    rcases SortedBy.mem_of_mem_place inside with rfl | old
    · exact inside
    · exact absurd (by simpa using key) (free placed old)
  · exact SortedBy.mem_place_of_mem member

end Registry

/-- Faults that do not fit a call let it pass and stay as they are. -/
theorem Fault.strike_of_unfit {τ ε : Type} {fits : τ → Bool} {faults : List (Fault τ ε)}
    (unfit : ∀ f ∈ faults, fits f.trigger = false) : strike fits faults = (none, faults) := by
  induction faults with
  | nil => rfl
  | cons f rest ih =>
    rw [List.forall_mem_cons] at unfit
    simp [strike, unfit.1, ih unfit.2]

namespace Fleet

variable {k : Nat} {f g : Fleet}

/-- A call is spared by faults that are armed elsewhere. -/
theorem strikeStore_of_spared {call : Occasion}
    (spared : ∀ fault ∈ f.storeFaults, fault.trigger.point ≠ call.point) :
    f.strikeStore call = (none, f) := by
  have passes : Fault.strike call.fits f.storeFaults = (none, f.storeFaults) := by
    refine Fault.strike_of_unfit fun fault member => ?_
    simp [Occasion.fits, spared fault member]
  rw [strikeStore, passes]

theorem registry_of_strikeStore {call : Occasion} {effect : Option StoreEffect}
    (struck : f.strikeStore call = (effect, g)) : g.registry = f.registry := by
  cases struck
  rfl

theorem registry_of_strikeSignal {call : Occasion} {failure : Option SignalFailure}
    (struck : f.strikeSignal call = (failure, g)) : g.registry = f.registry := by
  cases struck
  rfl

/-- Only a registration changes the registry. -/
theorem registry_handler {a : Action} (other : a.registers = false) (f : Fleet) :
    (handler k a f).2.registry = f.registry := by
  cases a with
  | register record => cases other
  | write change fact =>
    simp only [handler, write]
    split <;> next struck => exact (registry_of_strikeStore struck :)
  | query pattern =>
    simp only [handler, query]
    split <;> next struck => exact (registry_of_strikeStore struck :)
  | probe =>
    simp only [handler, probe]
    split <;> next struck => exact (registry_of_strikeStore struck :)
  | listing w =>
    simp only [handler, listing]
    split <;> next struck => exact (registry_of_strikeStore struck :)
  | publish s =>
    simp only [handler, publish]
    split <;> next struck => exact (registry_of_strikeSignal struck :)
  | subscribe =>
    simp only [handler, subscribe]
    split <;> next struck => exact (registry_of_strikeSignal struck :)
  | unsubscribe | acquireLock | releaseLock | readIndex | swapIndex | note => rfl

/-- A registration is refused and changes nothing, or the name was free and the record is added. -/
theorem register_cases (record : Namespace) (f : Fleet) :
    (f.register record).2.registry = f.registry ∨
      (f.register record).1 = .ok record ∧ (∀ other ∈ f.registry, other.name ≠ record.name) ∧
        (f.register record).2.registry = f.registry.insert record := by
  unfold register
  split
  · next struck => exact .inl (registry_of_strikeStore struck)
  · next struck =>
    have kept := registry_of_strikeStore struck
    by_cases taken : ∃ other ∈ f.registry, other.name = record.name
    · obtain ⟨other, member, same⟩ := taken
      rw [kept, Registry.register_of_taken member same]
      exact .inl rfl
    · have free : ∀ other ∈ f.registry, other.name ≠ record.name :=
        fun other member same => taken ⟨other, member, same⟩
      rw [kept, Registry.register_of_free free]
      exact .inr ⟨rfl, free, rfl⟩

/-- No fault is armed on registrations, and a registry in memory has no other way to fail. -/
def RegistryWorks (f : Fleet) : Prop := ∀ fault ∈ f.storeFaults, fault.trigger.point ≠ .register

theorem RegistryWorks.of_leftOf (works : f.RegistryWorks)
    (left : Fault.LeftOf f.storeFaults g.storeFaults) : g.RegistryWorks := by
  intro fault member
  obtain ⟨earlier, inFaults, same, -⟩ := left fault member
  rw [← same]
  exact works earlier inFaults

/-- A name that is taken is refused to everybody else. -/
theorem register_of_taken (works : f.RegistryWorks) {record other : Namespace}
    (taken : other ∈ f.registry) (same : other.name = record.name) :
    f.register record = (.error (.conflict "namespace exists"), f) := by
  have passes : f.strikeStore { point := .register } = (none, f) := strikeStore_of_spared works
  simp [register, passes, Registry.register_of_taken taken same]

end Fleet

/-! ### Who registers -/

theorem Call.Confined.abides {α : Type} {rule : List Step → Step → Prop} {ends : α → Prop}
    {call : Call α} (confined : call.Confined ends) {course : List Step}
    (may : ∀ steps step, step.1.registers = false → rule (course ++ steps) step) :
    call.Abides rule (fun later value => course <+: later ∧ ends value) course := by
  induction call generalizing course with
  | done value => exact ⟨List.prefix_refl course, confined⟩
  | act a rest ih =>
    refine fun answer => ⟨?_, (ih answer (confined.2 answer) fun steps => ?_).imp ?_⟩
    · simpa using may [] ⟨a, answer⟩ confined.1
    · simpa using may (⟨a, answer⟩ :: steps)
    · rintro later value ⟨longer, holds⟩
      exact ⟨(List.prefix_append course _).trans longer, holds⟩

theorem Policy.Request.confined (me : Profile) (r : Policy.Request) :
    (r.call me).run.Confined fun _ => True := by
  cases check : Demand.check r.demands with
  | ok => exact (r.accepted me check).imp fun _ _ => trivial
  | error cause =>
    rw [r.call_of_unmet me check]
    trivial

theorem Authority.confined_assign (me : Profile) (user role domain : String) :
    (assign me user role domain).run.Confined fun _ => True := by
  cases check : Demand.check (assignmentDemands user role domain) with
  | ok => exact (accepted_assign me check).imp fun _ _ => trivial
  | error cause => simp [assign, checkedAssignment_eq, check, Except.map, Call.Confined]

theorem Replica.accepted_watch (id : String) : (watch id).Accepted := by
  have opens : Attempt.Accepted (.ofChannel (Call.perform .subscribe)) :=
    .step rfl fun answer => by cases answer <;> exact nofun
  refine opens.bind fun subscription => (accepted_rebuild id).bind_outcome fun rebuilt other => ?_
  cases rebuilt with
  | ok => exact Attempt.accepted_pure subscription
  | error cause =>
    refine (Attempt.Accepted.of_call (Call.confined_perform rfl)).bind fun _ => ?_
    exact Attempt.accepted_fail fun reason same => other reason (congrArg _ same)

theorem Replica.confined_follow (id : String) (s : Signal) :
    (follow id s).Confined fun _ => True := by
  unfold follow
  split
  · trivial
  · exact Call.Confined.bind (accepted_rebuild id) fun _ _ => trivial

/-- Only the creation of a namespace registers anything. -/
theorem Origin.confined (me : Profile) {origin : Origin}
    (other : ∀ creator record, origin ≠ .asked (.createNamespace creator record)) :
    (origin.call me).Confined fun _ => True := by
  cases origin with
  | heard s => exact (Replica.confined_follow me.id s).bind fun _ _ => trivial
  | asked errand =>
    cases errand with
    | request r => exact (r.confined me).bind fun _ _ => trivial
    | change c fact =>
      exact Call.Confined.bind (Replica.accepted_commit me.id c fact) fun _ _ => trivial
    | rebuild => exact Call.Confined.bind (Replica.accepted_rebuild me.id) fun _ _ => trivial
    | watch => exact Call.Confined.bind (Replica.accepted_watch me.id) fun _ _ => trivial
    | createNamespace creator record => exact absurd rfl (other creator record)

theorem Origin.abides_of_other (me : Profile) {origin : Origin}
    (other : ∀ creator record, origin ≠ .asked (.createNamespace creator record)) :
    (origin.call me).Abides (fun _ step => step.1.registers = false) (fun _ _ => True) [] :=
  ((confined me other).abides fun _ _ other => other).imp fun _ _ _ => trivial

/-! ### What the creation of a namespace does -/

/-- The record with the name of its creator in it. -/
def Namespace.of (creator : String) (record : Namespace) : Namespace :=
  { record with createdBy := creator }

/-- The registration of this record comes first, and whatever comes after it registers nothing and
happens only if the record was registered. -/
def Creating (owned : Namespace) : List Step → Step → Prop
  | [], step => step.1 = .register owned
  | first :: _, step => step.1.registers = false ∧ ∃ created, first = ⟨.register owned, .ok created⟩

/-- A creation ends with what the registry said against it, if it did. -/
def Created (owned : Namespace) (course : List Step) (outcome : Outcome) : Prop :=
  ∃ answer rest, course = ⟨.register owned, answer⟩ :: rest ∧
    ∀ cause, answer = .error cause → outcome = .served (.error (.store cause))

section Creation

variable (me : Profile) {creator : String} {record : Namespace}

def creationDemands (creator : String) (record : Namespace) : List Demand :=
  [.text "creator" creator, .text "namespace" record.name]

theorem check_creationDemands : Demand.check (creationDemands creator record) = .ok () ↔
    Text.isBlank creator = false ∧ Text.isBlank record.name = false := by
  simp [Demand.check_eq_ok_iff, creationDemands, Demand.met]

/-- Without the name of its creator or its own, no namespace is created. -/
theorem Authority.createNamespace_of_unmet {cause : Failure}
    (unmet : Demand.check (creationDemands creator record) = .error cause) :
    (createNamespace me creator record).run = .done (.error cause) :=
  Attempt.required_of_unmet unmet Attempt.required_last_of_unmet

theorem Authority.abides_of_unmet {cause : Failure}
    (unmet : Demand.check (creationDemands creator record) = .error cause) :
    ((Origin.asked (.createNamespace creator record)).call me).Abides (fun _ _ => False)
      (fun _ _ => True) [] := by
  rw [Origin.call, Errand.call, createNamespace_of_unmet me unmet]
  trivial

/-- What registers nothing may follow a registration. -/
theorem Call.Confined.abides_creating {owned created : Namespace} {call : Call Outcome}
    (confined : call.Confined fun _ => True) :
    call.Abides (Creating owned) (Created owned) [⟨.register owned, .ok created⟩] := by
  refine (confined.abides fun steps step other => ⟨other, created, rfl⟩).imp ?_
  rintro later outcome ⟨⟨rest, rfl⟩, -⟩
  exact ⟨_, rest, rfl, nofun⟩

theorem Authority.abides_createNamespace
    (met : Demand.check (creationDemands creator record) = .ok ()) :
    ((Origin.asked (.createNamespace creator record)).call me).Abides
      (Creating (record.of creator)) (Created (record.of creator)) [] := by
  rw [check_creationDemands] at met
  have named : required "creator" creator = .ok () := by simp [required, met.1]
  have given : required "namespace" record.name = .ok () := by simp [required, met.2]
  simp only [Origin.call, Errand.call, createNamespace, named, given, Attempt.ofStore, Call.perform,
    Attempt.run_bind, Attempt.run_outcome, Attempt.run_liftCheck, Call.act_bind, Call.done_bind,
    Call.pure_eq, bind_assoc]
  refine fun answer => ⟨rfl, ?_⟩
  cases answer with
  | error cause => exact ⟨_, [], rfl, fun other same => by rw [Except.error.inj same]; rfl⟩
  | ok created =>
    -- What is done about the administrator registers nothing.
    refine Call.Confined.abides_creating ?_
    simp only [mapError_ok, bind_assoc]
    refine (confined_assign me creator me.adminRole created.name).bind fun result _ => ?_
    cases result with
    | ok => exact .step rfl fun _ => trivial
    | error cause => exact .step rfl fun _ => trivial

end Creation

/-! ### The registry along a run -/

namespace Traffic

variable {start t u : Traffic} {stands later : Nat → Stand} {turns : List Turn}
  {record other : Namespace}

/-- Nothing changes the registry but a registration of a name that was free. -/
theorem Happens.registry_cases {h : Happening} (happens : t.Happens stands h u later) :
    u.fleet.registry = t.fleet.registry ∨
      ∃ n k record, h = .acted n k ⟨.register record, .ok record⟩ ∧
        (∀ other ∈ t.fleet.registry, other.name ≠ record.name) ∧
        u.fleet.registry = t.fleet.registry.insert record := by
  cases happens with
  | began joins => exact .inl joins.registry
  | @acted n k a answer me old new stand next u goes member answered =>
    obtain ⟨watchers, fleet⟩ := goes.exists_fleet
    subst answered
    rw [fleet]
    cases a with
    | register record =>
      rcases Fleet.register_cases record t.fleet with same | ⟨accepted, free, added⟩
      · exact .inl same
      · refine .inr ⟨n, k, record, ?_, free, added⟩
        rw [Fleet.handler, accepted]
    | _ => exact .inl (Fleet.registry_handler rfl t.fleet)

theorem Happens.mem_registry {h : Happening} (happens : t.Happens stands h u later)
    (registered : record ∈ t.fleet.registry) : record ∈ u.fleet.registry := by
  rcases happens.registry_cases with same | ⟨n, k, added, -, free, changed⟩
  · rwa [same]
  · rw [changed, Registry.mem_insert_of_free free]
    exact .inr registered

theorem Happens.registryWorks {h : Happening} (happens : t.Happens stands h u later)
    (works : t.fleet.RegistryWorks) : u.fleet.RegistryWorks := by
  cases happens with
  | began joins => exact works.of_leftOf joins.kept.storeFaults
  | @acted n k a answer me old new stand next u goes =>
    obtain ⟨watchers, fleet⟩ := goes.exists_fleet
    rw [fleet]
    exact works.of_leftOf (Fleet.framed_handler old.member a t.fleet).storeFaults

theorem Happens.answer_of_taken {n k : Nat} {answer : Except StoreFailure Namespace}
    (happens : t.Happens stands (.acted n k ⟨.register record, answer⟩) u later)
    (works : t.fleet.RegistryWorks) (taken : other ∈ t.fleet.registry)
    (same : other.name = record.name) : answer = .error (.conflict "namespace exists") := by
  cases happens with
  | acted goes member answered =>
    rw [← answered, Fleet.handler, Fleet.register_of_taken works taken same]

theorem Happens.length_tasks {h : Happening} (happens : t.Happens stands h u later) :
    t.tasks.length ≤ u.tasks.length := by
  cases happens with
  | began joins =>
    obtain ⟨watcher, tasks⟩ := joins.tasks
    simp [tasks]
  | acted goes => simp [goes.tasks]

/-- The registry has the record at the moment. -/
def RegisteredAt (t : Traffic) (turns : List Turn) (i : Nat) (record : Namespace) : Prop :=
  ∃ u, t.play (turns.take i) = some u ∧ record ∈ u.fleet.registry

namespace Opening

variable {i j : Nat}

theorem registeredAt_of_le (opening : start.Opening) (played : start.play turns = some t)
    (registered : start.RegisteredAt turns i record) (ordered : i ≤ j) :
    start.RegisteredAt turns j record := by
  obtain ⟨v, first, holds⟩ := registered
  obtain ⟨w, last, -⟩ := exists_moment played j
  refine ⟨w, last, ?_⟩
  refine of_span (P := fun v => record ∈ v.fleet.registry) opening.obedient played ordered ?_ first
    last holds
  intro m h x y before after _ _ _ _ happens kept
  exact happens.mem_registry kept

theorem registryWorks (opening : start.Opening) (works : start.fleet.RegistryWorks)
    (played : start.play turns = some t) : t.fleet.RegistryWorks := by
  obtain ⟨later, works, -⟩ := exists_of_chronicle (I := fun _ t _ => t.fleet.RegistryWorks)
    (fun works happens => happens.registryWorks works) [] works opening.obedient played
  exact works

/-- Every record of the registry was registered in the course of the run. -/
theorem exists_register (opening : start.Opening) (empty : start.fleet.registry = .empty)
    (played : start.play turns = some t) (registered : record ∈ t.fleet.registry) :
    ∃ n k, .acted n k ⟨.register record, .ok record⟩ ∈ start.chronicle turns := by
  have nothing : ∀ record ∈ start.fleet.registry,
      ∃ n k, .acted n k ⟨.register record, .ok record⟩ ∈ ([] : List Happening) := by
    rw [empty]
    exact fun record member => absurd member (SortedBy.not_mem_empty record)
  obtain ⟨later, stems, -⟩ := exists_of_chronicle
    (I := fun past t _ => ∀ record ∈ t.fleet.registry,
      ∃ n k, .acted n k ⟨.register record, .ok record⟩ ∈ past)
    (fun {past t u stands later h} stems happens record member => by
      have old (before : record ∈ t.fleet.registry) :
          ∃ n k, .acted n k ⟨.register record, .ok record⟩ ∈ past ++ [h] := by
        obtain ⟨n, k, entry⟩ := stems record before
        exact ⟨n, k, List.mem_append_left _ entry⟩
      rcases happens.registry_cases with same | ⟨n, k, added, rfl, free, changed⟩
      · exact old (same ▸ member)
      · rw [changed, Registry.mem_insert_of_free free] at member
        rcases member with rfl | before
        · exact ⟨n, k, List.mem_append_right _ List.mem_cons_self⟩
        · exact old before)
    [] nothing opening.obedient played
  exact stems record registered

/-- A registration is a step of a creation, and has the name of its creator in it. -/
theorem creation_of_register (opening : start.Opening) (played : start.play turns = some t)
    {m n k : Nat} {answer : Except StoreFailure Namespace}
    (found : (start.chronicle turns)[m]? = some (.acted n k ⟨.register record, answer⟩)) :
    ∃ l creator asked,
      .began n l (.asked (.createNamespace creator asked)) ∈ start.chronicle turns ∧
        record = asked.of creator ∧ Demand.check (creationDemands creator asked) = .ok () := by
  have recorded := opening.recorded played
  obtain ⟨task, here, -⟩ := recorded.acted n k _ (List.mem_of_getElem? found)
  obtain ⟨l, origin, begun⟩ := recorded.known n (List.getElem?_eq_some_iff.mp here).1
  by_cases creates : ∃ creator asked, origin = .asked (.createNamespace creator asked)
  · obtain ⟨creator, asked, rfl⟩ := creates
    cases check : Demand.check (creationDemands creator asked) with
    | ok =>
      have may := opening.allowed played begun
        (fun me => Authority.abides_createNamespace me check) found
      refine ⟨l, creator, asked, begun, ?_, check⟩
      cases course : courseOf n ((start.chronicle turns).take m) with
      | nil =>
        rw [course] at may
        exact Action.register.inj may
      | cons first rest =>
        rw [course] at may
        cases may.1
    | error cause =>
      exact (opening.allowed played begun (fun me => Authority.abides_of_unmet me check) found).elim
  · have other : ∀ creator asked, origin ≠ .asked (.createNamespace creator asked) :=
      fun creator asked same => creates ⟨creator, asked, same⟩
    cases opening.allowed played begun (fun me => Origin.abides_of_other me other) found

/-- Every registered record stems from the creation by the one whose name is in it. -/
theorem exists_creation (opening : start.Opening) (empty : start.fleet.registry = .empty)
    (played : start.play turns = some t) (registered : start.RegisteredAt turns i record) :
    ∃ m n k l creator asked, m < i ∧
      (start.chronicle turns)[m]? = some (.acted n k ⟨.register record, .ok record⟩) ∧
      .began n l (.asked (.createNamespace creator asked)) ∈ start.chronicle turns ∧
      record = asked.of creator ∧ Demand.check (creationDemands creator asked) = .ok () := by
  obtain ⟨v, reached, taken⟩ := registered
  obtain ⟨n, k, entry⟩ := opening.exists_register empty reached taken
  rw [chronicle_take] at entry
  obtain ⟨m, found⟩ := List.mem_iff_getElem?.mp entry
  rw [List.getElem?_take, Option.ite_none_right_eq_some] at found
  obtain ⟨l, creator, asked, begun, owned, met⟩ := opening.creation_of_register played found.2
  exact ⟨m, n, k, l, creator, asked, found.1, found.2, begun, owned, met⟩

/-- A call takes its steps after it was begun. -/
theorem lt_of_began (opening : start.Opening) (played : start.play turns = some t) {b m n k l : Nat}
    {origin : Origin} {step : Step}
    (begun : (start.chronicle turns)[b]? = some (.began n k origin))
    (acted : (start.chronicle turns)[m]? = some (.acted n l step)) : b < m := by
  obtain ⟨v, w, before, after, first, -, begins⟩ :=
    happens_of_chronicle opening.obedient played begun
  obtain ⟨x, y, between, beyond, second, -, acts⟩ :=
    happens_of_chronicle opening.obedient played acted
  by_contra late
  -- The call is there when it acts, but it gets its number when it is begun.
  have there : n < x.tasks.length := by
    cases acts with
    | acted goes => exact (List.getElem?_eq_some_iff.mp goes.found).1
  have still : n < v.tasks.length := by
    refine of_span (P := fun v => n < v.tasks.length) opening.obedient played
      (Nat.le_of_not_lt late) ?_ second first there
    intro m h x y before after _ _ _ _ happens inside
    exact Nat.lt_of_lt_of_le inside happens.length_tasks
  cases begins with
  | began joins => exact Nat.lt_irrefl _ still

end Opening

section Latecomer

variable {i b n k : Nat} {creator : String} {asked : Namespace}

/-- A creation that comes too late registers nothing and does nothing else. -/
theorem Opening.courseOf_latecomer (opening : start.Opening) (works : start.fleet.RegistryWorks)
    (played : start.play turns = some t) (registered : start.RegisteredAt turns i other)
    (late : i ≤ b) (begun : (start.chronicle turns)[b]? =
      some (.began n k (.asked (.createNamespace creator asked))))
    (met : Demand.check (creationDemands creator asked) = .ok ()) (same : other.name = asked.name)
    (m : Nat) :
    courseOf n ((start.chronicle turns).take m) = [] ∨
      courseOf n ((start.chronicle turns).take m) =
        [⟨.register (asked.of creator), .error (.conflict "namespace exists")⟩] := by
  induction m with
  | zero => exact .inl rfl
  | succ m ih =>
    rw [List.take_add_one, courseOf_append]
    cases found : (start.chronicle turns)[m]? with
    | none => simpa [courseOf] using ih
    | some h =>
      cases acts : h.stepOf? n with
      | none => simpa [courseOf, acts] using ih
      | some step =>
        obtain ⟨j, rfl⟩ : ∃ j, h = .acted n j step := by
          cases h with
          | began => cases acts
          | acted l j done =>
            simp only [Happening.stepOf?, Option.ite_none_right_eq_some, Option.some.injEq] at acts
            exact ⟨j, by rw [acts.1, acts.2]⟩
        have may := opening.allowed played (List.mem_of_getElem? begun)
          (fun me => Authority.abides_createNamespace me met) found
        rcases ih with nothing | refused
        · rw [nothing] at may ⊢
          obtain ⟨a, answer⟩ := step
          obtain rfl : a = .register (asked.of creator) := may
          obtain ⟨v, w, before, after, reached, -, happens⟩ :=
            happens_of_chronicle opening.obedient played found
          have soon : i ≤ m := Nat.le_trans late (opening.lt_of_began played begun found).le
          obtain ⟨x, there, taken⟩ := opening.registeredAt_of_le played registered soon
          obtain rfl := Option.some.inj (there.symm.trans reached)
          rw [happens.answer_of_taken (opening.registryWorks works reached) taken same]
          exact .inr (by simp [courseOf, Happening.stepOf?])
        · rw [refused] at may
          obtain ⟨-, created, first⟩ := may
          simp at first

/-- A creation is told of the conflict in its next turn. -/
theorem goes_of_taken {task : Task} {next : Except StoreFailure Namespace → Call Outcome}
    {outcome : Outcome} (works : t.fleet.RegistryWorks) (taken : other ∈ t.fleet.registry)
    (same : other.name = record.name) (found : t.tasks[n]? = some task)
    (rest : task.rest = .act (.register record) next)
    (ends : next (.error (.conflict "namespace exists")) = .done outcome)
    (served : ∃ result, outcome = .served result) :
    ∃ u, t.take (.goes n) = some u ∧ u.fleet = t.fleet ∧ u.outcomeOf? n = some outcome := by
  obtain ⟨k, watcher, rest⟩ := task
  obtain ⟨result, rfl⟩ := served
  cases rest
  have inside := (List.getElem?_eq_some_iff.mp found).1
  refine ⟨⟨t.fleet, t.locked, t.tasks.set n ⟨k, watcher, .done (.served result)⟩⟩, ?_, rfl, ?_⟩
  · simp [take, goes, found, Fleet.handler, Fleet.register_of_taken works taken same, ends,
      Task.leave, Task.outcome?, lockedAfter]
  · simp [outcomeOf?, inside, Task.outcome?]

theorem Opening.refused_of_latecomer (opening : start.Opening)
    (works : start.fleet.RegistryWorks) (played : start.play turns = some t)
    (registered : start.RegisteredAt turns i other) (late : i ≤ b)
    (begun : (start.chronicle turns)[b]? =
      some (.began n k (.asked (.createNamespace creator asked))))
    (met : Demand.check (creationDemands creator asked) = .ok ()) (same : other.name = asked.name) :
    (courseOf n (start.chronicle turns) = [] ∧ ∃ u, t.take (.goes n) = some u ∧
        u.fleet = t.fleet ∧
        u.outcomeOf? n = some (.served (.error (.store (.conflict "namespace exists"))))) ∨
      (courseOf n (start.chronicle turns) =
          [⟨.register (asked.of creator), .error (.conflict "namespace exists")⟩] ∧
        t.outcomeOf? n = some (.served (.error (.store (.conflict "namespace exists"))))) := by
  obtain ⟨task, me, found, -, abides⟩ :=
    (opening.recorded played).abides n k _ (List.mem_of_getElem? begun)
  have goesOn := abides _ _ (Authority.abides_createNamespace me met)
  have course := opening.courseOf_latecomer works played registered late begun met same
    (start.chronicle turns).length
  rw [List.take_length] at course
  -- After the refusal nothing may follow, and the outcome tells of it.
  have refused {rest : Call Outcome} (left : rest.Abides (Creating (asked.of creator))
      (Created (asked.of creator))
      [⟨.register (asked.of creator), .error (.conflict "namespace exists")⟩]) :
      rest = .done (.served (.error (.store (.conflict "namespace exists")))) := by
    cases rest with
    | done outcome =>
      obtain ⟨answer, others, whole, tells⟩ := left
      obtain ⟨⟨-, rfl⟩, -⟩ := by simpa using whole
      rw [tells _ rfl]
    | act a next =>
      obtain ⟨-, created, first⟩ := (left (Fleet.handler 0 a t.fleet).1).1
      simp at first
  rcases course with nothing | once
  · refine .inl ⟨nothing, ?_⟩
    rw [nothing] at goesOn
    cases rest : task.rest with
    | done outcome =>
      rw [rest] at goesOn
      obtain ⟨answer, others, whole, -⟩ := goesOn
      cases whole
    | act a next =>
      rw [rest] at goesOn
      obtain rfl : a = .register (asked.of creator) := (goesOn (Fleet.handler 0 a t.fleet).1).1
      have ended := refused (goesOn (.error (.conflict "namespace exists"))).2
      have inside := (List.getElem?_eq_some_iff.mp begun).1
      rw [length_chronicle opening.obedient played] at inside
      obtain ⟨v, there, taken⟩ :=
        opening.registeredAt_of_le played registered (Nat.le_trans late inside.le)
      rw [List.take_length, played] at there
      obtain rfl := Option.some.inj there
      have owned : other.name = (asked.of creator).name := same
      exact goes_of_taken (opening.registryWorks works played) taken owned found rest ended ⟨_, rfl⟩
  · rw [once] at goesOn
    refine .inr ⟨once, ?_⟩
    rw [outcomeOf?, found, Option.bind_some, Task.outcome?, refused goesOn]

end Latecomer

/-! ### Main result -/

/-- However the calls of the replicas interleave and whatever the store refuses: a record stays as
it was registered, no other bears its name at any moment, and it has the name of its creator in it.
Every later creation of a namespace with this name ends in the conflict and does nothing else; one
that has not come to that yet comes to it in its next turn. -/
theorem registered_for_good (opening : start.Opening) (empty : start.fleet.registry = .empty)
    (works : start.fleet.RegistryWorks) (played : start.play turns = some t) {i : Nat}
    (registered : start.RegisteredAt turns i record) :
    (∀ j, i ≤ j → start.RegisteredAt turns j record) ∧
      (∀ j other, start.RegisteredAt turns j other → other.name = record.name → other = record) ∧
      (∃ m n k l creator asked, m < i ∧
        (start.chronicle turns)[m]? = some (.acted n k ⟨.register record, .ok record⟩) ∧
        .began n l (.asked (.createNamespace creator asked)) ∈ start.chronicle turns ∧
        record = { asked with createdBy := creator }) ∧
      ∀ b n k creator asked, i ≤ b →
        (start.chronicle turns)[b]? =
          some (.began n k (.asked (.createNamespace creator asked))) →
        Text.isBlank creator = false → asked.name = record.name →
        (courseOf n (start.chronicle turns) = [] ∧ ∃ u, t.take (.goes n) = some u ∧
            u.fleet = t.fleet ∧
            u.outcomeOf? n = some (.served (.error (.store (.conflict "namespace exists"))))) ∨
          (courseOf n (start.chronicle turns) =
              [⟨.register { asked with createdBy := creator },
                .error (.conflict "namespace exists")⟩] ∧
            t.outcomeOf? n = some (.served (.error (.store (.conflict "namespace exists"))))) := by
  refine ⟨fun j ordered => opening.registeredAt_of_le played registered ordered,
    fun j other also same => ?_, ?_, fun b n k creator asked late begun named same => ?_⟩
  · -- Both are still registered at the later of the two moments.
    obtain ⟨v, one, taken⟩ := opening.registeredAt_of_le played registered (Nat.le_max_left i j)
    obtain ⟨w, two, others⟩ := opening.registeredAt_of_le played also (Nat.le_max_right i j)
    obtain rfl := Option.some.inj (one.symm.trans two)
    exact Registry.eq_of_name others taken same
  · obtain ⟨m, n, k, l, creator, asked, before, found, begun, owned, -⟩ :=
      opening.exists_creation empty played registered
    exact ⟨m, n, k, l, creator, asked, before, found, begun, owned⟩
  · obtain ⟨-, -, -, -, author, first, -, -, -, owned, met⟩ :=
      opening.exists_creation empty played registered
    have name : asked.name = first.name := by
      rw [same, owned]
      rfl
    have given : Demand.check (creationDemands creator asked) = .ok () := by
      rw [check_creationDemands] at met ⊢
      exact ⟨named, by rw [name]; exact met.2⟩
    exact opening.refused_of_latecomer works played registered late begun given same.symm

/-- Two replicas over an empty store that refuses the first assignment. -/
def refusingOnce : Traffic :=
  gathered 16 .empty
    [⟨{ id := "a" }, Relations.index .empty⟩, ⟨{ id := "b" }, Relations.index .empty⟩]
    [{ trigger := { point := .insert }, times := some 1,
       effect := { failure := .unavailable "down" } }]

/-- Alice pretends to act for somebody else and is left without the role of the administrator. Then
Bob asks for the same name. -/
def claimedTwice : List Turn :=
  [.begins 0 (.createNamespace "alice" ⟨"docs", "Docs", "mallory"⟩), .goes 0, .goes 0, .goes 0,
    .begins 1 (.createNamespace "bob" ⟨"docs", "Mine", ""⟩), .goes 1]

theorem registered_for_good_refused :
    ∃ t, refusingOnce.play claimedTwice = some t ∧
      refusingOnce.RegisteredAt claimedTwice 6 ⟨"docs", "Docs", "alice"⟩ ∧
      t.outcomeOf? 0 = some (.served (.error (.orphaned "docs" (.store (.unavailable "down"))))) ∧
      t.outcomeOf? 1 = some (.served (.error (.store (.conflict "namespace exists")))) ∧
      courseOf 1 (refusingOnce.chronicle claimedTwice) =
        [⟨.register ⟨"docs", "Mine", "bob"⟩, .error (.conflict "namespace exists")⟩] := by
  have course : (refusingOnce.play claimedTwice).any (fun t =>
      decide (t.outcomeOf? 0 =
          some (.served (.error (.orphaned "docs" (.store (.unavailable "down"))))) ∧
        courseOf 1 (refusingOnce.chronicle claimedTwice) ≠ [])) = true := by decide +kernel
  have early : (refusingOnce.play (claimedTwice.take 2)).any (fun u =>
      decide (⟨"docs", "Docs", "alice"⟩ ∈ u.fleet.registry.toList)) = true := by decide +kernel
  obtain ⟨t, played, fits⟩ := (Option.any_eq_true _ _).mp course
  obtain ⟨orphaned, acted⟩ := of_decide_eq_true fits
  obtain ⟨v, reached, taken⟩ := (Option.any_eq_true _ _).mp early
  have inside : ⟨"docs", "Docs", "alice"⟩ ∈ v.fleet.registry.toList := of_decide_eq_true taken
  have registered : refusingOnce.RegisteredAt claimedTwice 2 ⟨"docs", "Docs", "alice"⟩ :=
    ⟨v, reached, inside⟩
  have works : refusingOnce.fleet.RegistryWorks := by
    intro fault member
    rw [List.mem_singleton.mp member]
    decide
  have begun : (refusingOnce.chronicle claimedTwice)[4]? =
      some (.began 1 1 (.asked (.createNamespace "bob" ⟨"docs", "Mine", ""⟩))) := by
    decide +kernel
  obtain ⟨stays, -, -, refused⟩ :=
    registered_for_good opening_gathered rfl works played registered
  rcases refused 4 1 1 "bob" _ (by decide) begun (by decide) rfl with ⟨nothing, -⟩ | ⟨once, ended⟩
  · exact absurd nothing acted
  · exact ⟨t, played, stays 6 (by decide), orphaned, ended, once⟩

end Traffic

end Entitlement
