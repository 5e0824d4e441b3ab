import Entitlement.Proofs.Registration
import Entitlement.Proofs.Streak

/-!
# Founding a namespace

The creation of a namespace changes two stores, one after the other: the registry takes the record,
and then the creator is assigned the role of the administrator. Here every way for a creation to end
is matched with what the two stores hold. Refused writes are taken to change nothing.
-/

namespace Entitlement

open Fleet (Committed Framed Harmless Serves deeds handler)

variable {α : Type} {k : Nat} {f g : Fleet}

/-! ### What a call leaves in the registry, and what it writes -/

theorem Call.Confined.registry_run {ends : α → Prop} {call : Call α} (confined : call.Confined ends)
    (f : Fleet) : (call.run (handler k) f).2.registry = f.registry := by
  induction call generalizing f with
  | done value => rfl
  | act a next ih =>
    rw [Call.run_act, ih _ (confined.2 _), Fleet.registry_handler confined.1]

/-- The writes among the deeds of a call are those among its steps. -/
theorem Fleet.written_eq (call : Call α) (f : Fleet) :
    (call.actions (handler k) f).filterMap Step.written? = (deeds k call f).filterMap Deed.write? := by
  induction call generalizing f with
  | done value => rfl
  | act a next ih =>
    rw [Call.actions, List.filterMap_cons, ih, deeds_act, List.filterMap_append]
    cases a with
    | query pattern => cases answer : (handler k (.query pattern) f).1 <;> rfl
    | _ => rfl

/-- A record that the registry accepts is in it afterwards; one that it refuses changes nothing. -/
theorem Fleet.register_answer (record : Namespace) (f : Fleet) :
    ((f.register record).1 = .ok record ∧ record ∈ (f.register record).2.registry) ∨
      ∃ cause, (f.register record).1 = .error cause ∧
        (f.register record).2.registry = f.registry := by
  unfold register
  split
  next effect g struck => exact .inr ⟨effect.failure, rfl, registry_of_strikeStore struck⟩
  next g struck =>
    rw [registry_of_strikeStore struck]
    by_cases taken : ∃ other ∈ f.registry, other.name = record.name
    · obtain ⟨other, member, same⟩ := taken
      rw [Registry.register_of_taken member same]
      exact .inr ⟨_, rfl, rfl⟩
    · have free : ∀ other ∈ f.registry, other.name ≠ record.name :=
        fun other member same => taken ⟨other, member, same⟩
      rw [Registry.register_of_free free]
      exact .inl ⟨rfl, (Registry.mem_insert_of_free free).mpr (.inl rfl)⟩

namespace Authority

variable (me : Profile) {user role domain creator : String} {record : Namespace}

/-! ### The assignment -/

/-- An assignment that lacks nothing comes to what the commit of its fact can come to. -/
theorem assign_cases (serves : f.Serves k) (user role domain : String) :
    (∃ reason, (assign me user role domain).run = .done (.error (.invalid reason))) ∨
      ∃ result done g, Committed f k me.id .insert (.assignment ⟨user, role, domain⟩) result done g ∧
        (f.run k (assign me user role domain)).1 = result ∧
        (f.run k (assign me user role domain)).2.relations = g.relations ∧
        deeds k (assign me user role domain).run f = done := by
  cases met : Demand.check (assignmentDemands user role domain) with
  | error cause =>
    left
    obtain ⟨reason, rfl⟩ := Demand.invalid_of_check met
    refine ⟨reason, ?_⟩
    simp [assign, checkedAssignment_eq, met, Except.map]
  | ok =>
    right
    have noted : assign me user role domain =
        Replica.commit me.id .insert (.assignment ⟨user, role, domain⟩) >>= fun _ =>
          Call.note (.assigned user role domain) := by
      rw [assign, checkedAssignment_eq, met]
      rfl
    obtain ⟨result, relations, -, done⟩ := run_noted (k := k) (f := f)
      (Replica.commit me.id .insert (.assignment ⟨user, role, domain⟩))
      (.assigned user role domain)
    rw [noted]
    exact ⟨_, _, _, Fleet.commit_cases serves me.id .insert _, result, relations, done⟩

/-- An assignment writes once or not at all. -/
theorem written_assign (serves : f.Serves k) (user role domain : String) :
    ((assign me user role domain).run.actions (handler k) f).filterMap Step.written? <+:
      [(.insert, .assignment ⟨user, role, domain⟩)] := by
  rcases assign_cases me serves user role domain with
    ⟨reason, run⟩ | ⟨result, done, g, committed, -, -, deeds⟩
  · rw [run]
    exact List.nil_prefix
  · obtain ⟨t, write, -, same⟩ := committed.exists_round
    have written := Round.writes_eq me.id [t]
    rw [List.flatMap_singleton, same, ← deeds, ← Fleet.written_eq, List.map_singleton, write]
      at written
    rw [written]

/-- An assignment that succeeds is stored. -/
theorem relations_of_assigned (serves : f.Serves k)
    (assigned : (f.run k (assign me user role domain)).1 = .ok ()) :
    (f.run k (assign me user role domain)).2.relations =
      f.relations.write .insert (.assignment ⟨user, role, domain⟩) := by
  rcases assign_cases me serves user role domain with
    ⟨reason, run⟩ | ⟨result, done, g, committed, returned, relations, -⟩
  · rw [Fleet.run, run] at assigned
    cases assigned
  · obtain rfl := returned.symm.trans assigned
    rw [relations, committed.current.1]

/-! ### The creation -/

/-- How a creation ends, once it is known what became of the assignment. -/
def conclude (creator : String) (created : Namespace) :
    Except Failure Unit → Call (Except Failure Namespace)
  | .ok _ =>
    .act (.note (.event (.namespaceCreated created.name creator))) fun _ => .done (.ok created)
  | .error cause =>
    .act (.note (.event (.namespaceOrphaned created.name creator me.adminRole cause))) fun _ =>
      .done (.error (.orphaned created.name cause))

theorem createNamespace_of_met
    (met : Demand.check (creationDemands creator record) = .ok ()) :
    ∃ next, (createNamespace me creator record).run = .act (.register (record.of creator)) next ∧
      (∀ cause, next (.error cause) = .done (.error (.store cause))) ∧
      ∀ created, next (.ok created) =
        (assign me creator me.adminRole created.name).run >>= conclude me creator created := by
  rw [check_creationDemands] at met
  have named : required "creator" creator = .ok () := by simp [required, met.1]
  have given : required "namespace" record.name = .ok () := by simp [required, met.2]
  simp only [createNamespace, named, given, Attempt.ofStore, Call.perform,
    Attempt.run_bind, Attempt.run_outcome, Attempt.run_liftCheck, Call.act_bind, Call.done_bind,
    Call.pure_eq, bind_assoc]
  refine ⟨_, rfl, fun cause => rfl, fun created => ?_⟩
  simp only [mapError_ok]
  congr 1
  funext result
  cases result <;> rfl

/-- What a creation can come to: result, steps and the fleet afterwards. -/
inductive Founded (me : Profile) (f : Fleet) (creator : String) (record : Namespace) :
    Except Failure Namespace → List Step → Fleet → Prop
  | unmet (reason : String) : Founded me f creator record (.error (.invalid reason)) [] f
  | refused {g : Fleet} (cause : StoreFailure) (registry : g.registry = f.registry)
      (relations : g.relations = f.relations) :
      Founded me f creator record (.error (.store cause))
        [⟨.register (record.of creator), .error cause⟩] g
  | done {g : Fleet} {rest : List Step} (registered : record.of creator ∈ g.registry)
      (relations : g.relations =
        f.relations.write .insert (.assignment ⟨creator, me.adminRole, record.name⟩))
      (writes : rest.filterMap Step.written? <+:
        [(.insert, .assignment ⟨creator, me.adminRole, record.name⟩)]) :
      Founded me f creator record (.ok (record.of creator))
        (⟨.register (record.of creator), .ok (record.of creator)⟩ :: rest) g
  | orphaned {g : Fleet} {rest : List Step} (reason : Failure)
      (registered : record.of creator ∈ g.registry)
      (relations : g.relations = if reason.writePersisted then
        f.relations.write .insert (.assignment ⟨creator, me.adminRole, record.name⟩)
        else f.relations)
      (writes : rest.filterMap Step.written? <+:
        [(.insert, .assignment ⟨creator, me.adminRole, record.name⟩)]) :
      Founded me f creator record (.error (.orphaned record.name reason))
        (⟨.register (record.of creator), .ok (record.of creator)⟩ :: rest) g

/-- The creation after the registry has taken the record. -/
theorem founded_of_registered (serves : f.Serves k) (harmless : f.Harmless)
    (keeps : Fleet.Keeps f f.relations g) (registered : record.of creator ∈ g.registry) :
    let rest := (assign me creator me.adminRole record.name).run >>=
      conclude me creator (record.of creator)
    Founded me f creator record (rest.run (handler k) g).1
      (⟨.register (record.of creator), .ok (record.of creator)⟩ :: rest.actions (handler k) g)
      (rest.run (handler k) g).2 := by
  intro rest
  have framed := Framed.of_keeps (k := k) keeps
  have later := serves.of_framed framed
  have writes := written_assign me later creator me.adminRole record.name
  have registry := (confined_assign me creator me.adminRole record.name).registry_run (k := k) g
  have stays : record.of creator ∈ ((assign me creator me.adminRole record.name).run.run
      (handler k) g).2.registry := by rwa [registry]
  simp only [rest, Call.run_bind, Call.actions_bind]
  cases result : (g.run k (assign me creator me.adminRole record.name)).1 with
  | ok =>
    have relations := relations_of_assigned me later result
    rw [keeps.relations] at relations
    rw [Fleet.run] at result
    rw [result]
    refine .done stays relations ?_
    rw [List.filterMap_append]
    exact (List.append_nil _).symm ▸ writes
  | error cause =>
    have relations := relations_of_assign me later (harmless.of_framed framed) result
    rw [keeps.relations] at relations
    rw [Fleet.run] at result
    rw [result]
    refine .orphaned cause stays relations ?_
    rw [List.filterMap_append]
    exact (List.append_nil _).symm ▸ writes

theorem createNamespace_cases (serves : f.Serves k) (harmless : f.Harmless) :
    Founded me f creator record (f.run k (createNamespace me creator record)).1
      ((createNamespace me creator record).run.actions (handler k) f)
      (f.run k (createNamespace me creator record)).2 := by
  cases met : Demand.check (creationDemands creator record) with
  | error cause =>
    obtain ⟨reason, rfl⟩ := Demand.invalid_of_check met
    rw [Fleet.run, createNamespace_of_unmet me met]
    exact .unmet reason
  | ok =>
    obtain ⟨next, run, refused, accepted⟩ := createNamespace_of_met me met
    have keeps := Fleet.keeps_register (record.of creator) f
    rw [Fleet.run, run, Call.run_act, Call.actions, handler]
    rcases Fleet.register_answer (record.of creator) f with
      ⟨answer, registered⟩ | ⟨cause, answer, registry⟩
    · rw [answer, accepted]
      exact founded_of_registered me serves harmless keeps registered
    · rw [answer, refused]
      exact .refused cause registry keeps.relations

/-- An assignment whose failure is `reason` has left the relations as they were unless it is new
and only the index could not follow it. -/
theorem relations_eq_iff {r : Relations} {fact : Fact} {reason : Failure} :
    (if reason.writePersisted then r.write .insert fact else r) = r ↔
      r.Holds fact ∨ ∀ inner, reason ≠ .stale inner := by
  have all : r.writeAll .insert [fact] = r ↔ ∀ other ∈ [fact], r.Holds other :=
    Relations.writeAll_insert_eq_self_iff
  have single : r.write .insert fact = r ↔ r.Holds fact := all.trans List.forall_mem_singleton
  cases flag : reason.writePersisted with
  | false =>
    have other : ∀ inner, reason ≠ .stale inner := by
      rintro inner rfl
      cases flag
    simp [other]
  | true =>
    obtain ⟨inner, rfl⟩ := Failure.writePersisted_iff.mp flag
    simpa using single

/-- What a creation says is so, but for one case. It is done only with the record registered under
the name of its creator and the creator assigned; a failure of the request or of the registry
changes nothing. An orphan is registered, and the relations are as before unless the assignment is
new and only the index could not follow it. Nothing is written but the assignment, once at most and
after the registry has taken the record. -/
theorem createNamespace_reports (serves : f.Serves k) (harmless : f.Harmless) (creator : String)
    (record : Namespace) :
    let attempt := createNamespace me creator record
    let result := (f.run k attempt).1
    let after := (f.run k attempt).2
    let steps := attempt.run.actions (handler k) f
    let owned := { record with createdBy := creator }
    let administrator := Fact.assignment ⟨creator, me.adminRole, record.name⟩
    (∀ created, result = .ok created →
      created = owned ∧ owned ∈ after.registry ∧ after.relations.Holds administrator) ∧
    (∀ cause, result = .error cause →
      ((∃ reason, cause = .invalid reason) ∨ ∃ reason, cause = .store reason) ∧
        after.registry = f.registry ∧ after.relations = f.relations ∨
      ∃ reason, cause = .orphaned record.name reason ∧ owned ∈ after.registry ∧
        (after.relations = f.relations ↔
          f.relations.Holds administrator ∨ ∀ inner, reason ≠ .stale inner)) ∧
    steps.filterMap Step.written? <+: [(.insert, administrator)] ∧
    (∀ step ∈ steps, step.1.writes = true → steps.head? = some ⟨.register owned, .ok owned⟩) := by
  intro attempt result after steps owned administrator
  have founded : Founded me f creator record result steps after :=
    createNamespace_cases me serves harmless
  generalize result = result, steps = steps, after = after at founded ⊢
  cases founded with
  | unmet reason =>
    refine ⟨?_, ?_, List.nil_prefix, List.forall_mem_nil _⟩
    · rintro created ⟨⟩
    · rintro cause ⟨⟩
      exact .inl ⟨.inl ⟨reason, rfl⟩, rfl, rfl⟩
  | refused reason registry relations =>
    refine ⟨?_, ?_, List.nil_prefix, ?_⟩
    · rintro created ⟨⟩
    · rintro cause ⟨⟩
      exact .inl ⟨.inr ⟨reason, rfl⟩, registry, relations⟩
    · intro step member writes
      rw [List.mem_singleton.mp member] at writes
      cases writes
  | done registered relations writes =>
    refine ⟨?_, ?_, writes, fun _ _ _ => rfl⟩
    · rintro created ⟨⟩
      refine ⟨rfl, registered, ?_⟩
      rw [relations, Relations.write, Relations.holds_insert]
      exact .inl rfl
    · rintro cause ⟨⟩
  | orphaned reason registered relations writes =>
    refine ⟨?_, ?_, writes, fun _ _ _ => rfl⟩
    · rintro created ⟨⟩
    · rintro cause ⟨⟩
      refine .inr ⟨reason, rfl, registered, ?_⟩
      rw [relations]
      exact relations_eq_iff

/-- One replica over empty stores; the relation store refuses every call of one kind. -/
def hampered (point : Point) : Fleet :=
  { members := [some ⟨{ id := "a" }, .empty⟩], storeFaults := [refusing { point } false] }

theorem harmless_hampered (point : Point) : (hampered point).Harmless := by
  rintro change fact effect ⟨fault, member, -, rfl⟩
  rw [List.mem_singleton.mp member]
  rfl

/-- The insertion is refused: the namespace is registered, and nobody is its administrator. -/
theorem createNamespace_reports_hampered :
    let after := (hampered .insert).run 0
      (createNamespace { id := "a" } "alice" ⟨"docs", "Docs", ""⟩)
    after.1 = .error (.orphaned "docs" (.store (.unavailable "down"))) ∧
      ⟨"docs", "Docs", "alice"⟩ ∈ after.2.registry ∧ after.2.relations = .empty := by
  intro after
  have serves : (hampered .insert).Serves 0 := ⟨rfl, rfl⟩
  have failed : after.1 = .error (.orphaned "docs" (.store (.unavailable "down"))) :=
    Fleet.refusal_eq_some_iff.mp (by decide +kernel)
  obtain ⟨-, reports, -⟩ := createNamespace_reports { id := "a" } serves
    (harmless_hampered .insert) "alice" ⟨"docs", "Docs", ""⟩
  rcases reports _ failed with ⟨⟨reason, ⟨⟩⟩ | ⟨reason, ⟨⟩⟩, -⟩ | ⟨reason, ⟨⟩, registered, same⟩
  exact ⟨failed, registered, same.mpr (.inr nofun)⟩

/-- The rebuild cannot ask the store: Alice is told that nobody is the administrator, and she is. -/
theorem createNamespace_misreports :
    let after := (hampered .query).run 0
      (createNamespace { id := "a" } "alice" ⟨"docs", "Docs", ""⟩)
    (hampered .query).Serves 0 ∧ (hampered .query).Harmless ∧
      after.1 = .error (.orphaned "docs" (.stale (.store (.unavailable "down")))) ∧
      after.2.relations ≠ (hampered .query).relations ∧
      after.2.relations.Holds (.assignment ⟨"alice", "admin", "docs"⟩) := by
  refine ⟨⟨rfl, rfl⟩, harmless_hampered .query, ?_, by decide +kernel, by decide +kernel⟩
  exact Fleet.refusal_eq_some_iff.mp (by decide +kernel)

end Authority

end Entitlement
