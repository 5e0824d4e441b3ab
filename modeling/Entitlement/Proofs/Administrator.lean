import Entitlement.Proofs.Layers
import Entitlement.Proofs.Registration
import Entitlement.Proofs.Standalone
import Entitlement.Proofs.Truthfulness

/-!
# The first administrator

Whoever creates a namespace is to become its administrator. The role comes from the settings, where
it is not checked, and is required when it is assigned, after the namespace has been registered. So
a replica of its own serves creators exactly if its settings name a role that is not blank.
-/

namespace Entitlement

/-! ### Without faults -/

namespace Fleet

variable {k : Nat} {f : Fleet} {creator : String} {record : Namespace}

/-- The fleet with one more record. -/
def registered (record : Namespace) (f : Fleet) : Fleet :=
  { f with registry := f.registry.insert record }

theorem register_of_free (quiet : f.Quiet)
    (free : ∀ other ∈ f.registry, other.name ≠ record.name) :
    f.register record = (.ok record, f.registered record) := by
  simp [register, registered, strikeStore_of_quiet quiet, Registry.register_of_free free]

/-- Once it is registered, the creation of a namespace goes as the assignment of the role does. -/
theorem run_createNamespace (me : Profile) (quiet : f.Quiet)
    (met : Demand.check (creationDemands creator record) = .ok ())
    (free : ∀ other ∈ f.registry, other.name ≠ record.name) {result : Except Failure Unit}
    {g : Fleet} (assigned : (f.registered (record.of creator)).run k
      (Authority.assign me creator me.adminRole record.name) = (result, g)) :
    ∃ e, f.run k (Authority.createNamespace me creator record) =
      ((result.mapError (.orphaned record.name)).map fun _ => record.of creator,
        g.note (.event e)) := by
  rw [check_creationDemands] at met
  have one : (Demand.text "creator" creator).met = true := by simp [Demand.met, met.1]
  have two : (Demand.text "namespace" record.name).met = true := by simp [Demand.met, met.2]
  have unclaimed : ∀ other ∈ f.registry, other.name ≠ (record.of creator).name := free
  have answer : f.register { record with createdBy := creator } = _ :=
    register_of_free quiet unclaimed
  rw [Authority.createNamespace, Authority.run_required, if_pos one, Authority.run_required,
    if_pos two, run_register, answer]
  change (f.registered { record with createdBy := creator }).run k _ = (result, g) at assigned
  dsimp only
  rw [Authority.run_outcome, assigned]
  cases result <;> exact ⟨_, rfl⟩

/-- The creator becomes the administrator, if there is a role for that. -/
theorem createNamespace_of_role {me : Profile} (serves : f.Serves k) (quiet : f.Quiet)
    (met : Demand.check (creationDemands creator record) = .ok ())
    (free : ∀ other ∈ f.registry, other.name ≠ record.name)
    (role : Text.isBlank me.adminRole = false) :
    ∃ g, f.run k (Authority.createNamespace me creator record) = (.ok (record.of creator), g) ∧
      g.Steady k ∧ g.relations.Holds (.assignment ⟨creator, me.adminRole, record.name⟩) := by
  have demands : Demand.check (assignmentDemands creator me.adminRole record.name) = .ok () := by
    rw [check_creationDemands] at met
    simp [Demand.check_eq_ok_iff, assignmentDemands, Demand.met, met, role]
  have serves : (f.registered (record.of creator)).Serves k := ⟨serves.honest, serves.present⟩
  have achieves := Authority.achieves_assign me serves quiet demands
  obtain ⟨e, run⟩ := run_createNamespace me quiet met free (Prod.ext achieves.result rfl)
  refine ⟨_, run, achieves.steady.note _, ?_⟩
  have relations := achieves.relations
  change Relations.Holds (Fleet.relations (Prod.snd _)) _
  rw [relations, Relations.holds_writeAll_insert]
  exact .inl List.mem_cons_self

/-- Without a role the namespace is registered all the same, and nobody is assigned. -/
theorem createNamespace_of_blank {me : Profile} (quiet : f.Quiet)
    (met : Demand.check (creationDemands creator record) = .ok ())
    (free : ∀ other ∈ f.registry, other.name ≠ record.name)
    (blank : Text.isBlank me.adminRole = true) :
    ∃ g, f.run k (Authority.createNamespace me creator record) =
        (.error (.orphaned record.name (.missing "role")), g) ∧
      record.of creator ∈ g.registry ∧ g.relations = f.relations := by
  have unmet : Demand.check (assignmentDemands creator me.adminRole record.name) =
      .error (.missing "role") := by
    rw [check_creationDemands] at met
    simp [assignmentDemands, Demand.check_cons, Demand.met, Demand.field, met, blank]
  have refused : (f.registered (record.of creator)).run k
      (Authority.assign me creator me.adminRole record.name) =
        (.error (.missing "role"), f.registered (record.of creator)) := by
    simp [Fleet.run, Authority.assign, checkedAssignment_eq, unmet, Except.map]
  have unclaimed : ∀ other ∈ f.registry, other.name ≠ (record.of creator).name := free
  obtain ⟨e, run⟩ := run_createNamespace me quiet met free refused
  exact ⟨_, run, (Registry.mem_insert_of_free unclaimed).mpr (.inl rfl), rfl⟩

end Fleet

/-! ### The role in the settings -/

namespace Settings

variable {env : Environment} {files : Files} {s : Settings}

/-- The role that the file names, or else the environment, or else the usual one. -/
def administrator (env : Environment) (files : Files) : String :=
  let named := (env "TOLLGATE_ADMIN_ROLE").getD "admin"
  match env "TOLLGATE_CONFIG" with
  | none => named
  | some path =>
    match readOverrides files path with
    | .ok overrides => overrides.adminRole.getD named
    | .error _ => named

/-- It is the topmost layer of the role. -/
theorem administrator_eq (env : Environment) (files : Files) :
    administrator env files =
      ((overrides env files).adminRole.or (env "TOLLGATE_ADMIN_ROLE")).getD "admin" := by
  unfold administrator overrides
  cases env "TOLLGATE_CONFIG" with
  | none => rfl
  | some path => cases found : readOverrides files path <;> simp [found, Except.toOption]

theorem adminRole_of_load (loaded : load env files = .ok s) :
    s.adminRole = administrator env files := by
  rw [administrator_eq, (layered_of_load loaded).adminRole]

end Settings

/-! ### A replica of its own -/

namespace Cluster

variable {c : Cluster} {k : Nat} {me : Profile} {f : Fleet} {creator : String} {record : Namespace}

/-- A creation of a namespace at replica `k`. -/
def create (k : Nat) (creator : String) (record : Namespace) (c : Cluster) :
    Except Failure Namespace × Cluster :=
  c.run k (Authority.createNamespace (c.node k).profile creator record)

/-- The user has the role, in the memory of replica `k` and in its answers. -/
def HasRole (c : Cluster) (k : Nat) (user role domain : String) : Prop :=
  (∃ r, (c.node k).backing = .memory r ∧ r.Holds (.assignment ⟨user, role, domain⟩)) ∧
    ∃ roles, (c.run k (Authority.roles user domain)).1 = .ok roles ∧ role ∈ roles

theorem Alone.hasRole (alone : c.Alone k me f) (current : f.Current 0) {user role domain : String}
    (holds : f.relations.Holds (.assignment ⟨user, role, domain⟩))
    (met : Demand.check [.text "user" user, .text "domain" domain] = .ok ()) :
    c.HasRole k user role domain := by
  obtain ⟨answer, -⟩ := alone.run (Authority.roles user domain)
  have given : user ≠ "" := ne_empty_of_check "user" met (by simp)
  refine ⟨⟨f.relations, alone.backing, holds⟩, (f.indexOf 0).rolesOf user domain, ?_, ?_⟩
  · rw [answer, Authority.run_roles, met]
    rfl
  · rw [current, Index.mem_rolesOf given]
    exact holds

theorem Alone.createNamespace_of_role (alone : c.Alone k me f)
    (met : Demand.check (creationDemands creator record) = .ok ())
    (free : ∀ other ∈ (c.node k).registry, other.name ≠ record.name)
    (role : Text.isBlank me.adminRole = false) :
    ∃ after, c.create k creator record = (.ok (record.of creator), after) ∧
      after.HasRole k creator me.adminRole record.name := by
  obtain ⟨answer, later⟩ := alone.run (Authority.createNamespace me creator record)
  rw [create, alone.profile]
  rw [alone.registry] at free
  obtain ⟨g, run, steady, holds⟩ :=
    Fleet.createNamespace_of_role alone.serves alone.quiet met free role
  rw [run] at answer later
  have asks : Demand.check [.text "user" creator, .text "domain" record.name] = .ok () := by
    rw [check_creationDemands] at met
    simp [Demand.check_eq_ok_iff, Demand.met, met]
  exact ⟨_, Prod.ext answer rfl, later.hasRole steady.current holds asks⟩

theorem Alone.createNamespace_of_blank (alone : c.Alone k me f)
    (met : Demand.check (creationDemands creator record) = .ok ())
    (free : ∀ other ∈ (c.node k).registry, other.name ≠ record.name)
    (blank : Text.isBlank me.adminRole = true) :
    ∃ after,
      c.create k creator record = (.error (.orphaned record.name (.missing "role")), after) ∧
        record.of creator ∈ (after.node k).registry ∧
        (after.node k).backing = (c.node k).backing := by
  obtain ⟨answer, later⟩ := alone.run (Authority.createNamespace me creator record)
  rw [create, alone.profile]
  rw [alone.registry] at free
  obtain ⟨g, run, registered, relations⟩ :=
    Fleet.createNamespace_of_blank alone.quiet met free blank
  rw [run] at answer later
  refine ⟨_, Prod.ext answer rfl, ?_, ?_⟩
  · rw [later.registry]
    exact registered
  · rw [later.backing, alone.backing, relations]

/-! ### Main result -/

open Settings (Environment Files administrator)

/-- Settings that keep everything in memory always start a replica. Whatever it has done since,
whoever creates a namespace with a free name becomes its administrator if the settings name a role
for that. If the role is blank, the namespace is registered and nobody gets a role. -/
theorem create_of_load {env : Environment} {files : Files} {s : Settings}
    (loaded : Settings.load env files = .ok s) (memory : s.storage = .memory)
    (broadcast : s.signalling = .broadcast) (id : String) (c : Cluster) :
    ∃ k started, c.start id s = (.ok k, started) ∧
      ∀ later, Worked k started later →
      ∀ creator record, Text.isBlank creator = false → Text.isBlank record.name = false →
      (∀ other ∈ (later.node k).registry, other.name ≠ record.name) →
      (Text.isBlank (administrator env files) = false →
        ∃ after,
          later.create k creator record = (.ok { record with createdBy := creator }, after) ∧
            after.HasRole k creator (administrator env files) record.name) ∧
      (Text.isBlank (administrator env files) = true →
        ∃ after,
          later.create k creator record =
              (.error (.orphaned record.name (.missing "role")), after) ∧
            { record with createdBy := creator } ∈ (after.node k).registry ∧
            (after.node k).backing = (later.node k).backing) := by
  obtain ⟨started, f, starts, alone⟩ := exists_alone_of_start id memory broadcast c
  refine ⟨_, started, starts, fun later worked creator record created named free => ?_⟩
  obtain ⟨g, alone⟩ := worked.exists_alone alone
  have met := check_creationDemands.mpr ⟨created, named⟩
  rw [← Settings.adminRole_of_load loaded]
  exact ⟨alone.createNamespace_of_role met free, alone.createNamespace_of_blank met free⟩

/-- A replica that was started without any settings, after Alice has created a namespace. -/
def settled : Cluster := (create 0 "alice" ⟨"docs", "Docs", ""⟩ (start "a" {} {}).2).2

theorem create_of_load_unset :
    ∃ after,
      settled.create 0 "bob" ⟨"wiki", "Wiki", "alice"⟩ = (.ok ⟨"wiki", "Wiki", "bob"⟩, after) ∧
        after.HasRole 0 "bob" "admin" "wiki" := by
  have loaded : Settings.load (fun _ => none) (fun _ => .error default) = .ok {} := by
    decide +kernel
  obtain ⟨k, started, starts, administers⟩ := create_of_load loaded rfl rfl "a" {}
  obtain rfl : 0 = k := Except.ok.inj (congrArg Prod.fst starts)
  obtain rfl := congrArg Prod.snd starts
  have free : ∀ other ∈ (settled.node 0).registry.toList, other.name ≠ "wiki" := by decide +kernel
  have worked : Worked 0 (start "a" {} {}).2 settled := Worked.nothing.run _
  obtain ⟨administered, -⟩ := administers settled worked "bob" ⟨"wiki", "Wiki", "alice"⟩
    (by decide +kernel) (by decide +kernel) free
  exact administered (by decide +kernel)

/-- An environment in which the role of administrators is a blank. -/
def roleless : Environment := fun name => if name = "TOLLGATE_ADMIN_ROLE" then some " " else none

/-- The settings are accepted and a replica is started, and then Alice cannot create a namespace. -/
theorem create_of_load_roleless :
    ∃ s started after, Settings.load roleless (fun _ => .error default) = .ok s ∧
      s.storage = .memory ∧ s.signalling = .broadcast ∧ start "a" s {} = (.ok 0, started) ∧
      started.create 0 "alice" ⟨"docs", "Docs", ""⟩ =
        (.error (.orphaned "docs" (.missing "role")), after) ∧
      ¬ after.HasRole 0 "alice" s.adminRole "docs" := by
  have loaded : Settings.load roleless (fun _ => .error default) = .ok { adminRole := " " } := by
    decide +kernel
  refine ⟨_, _, _, loaded, rfl, rfl, Prod.ext rfl rfl, Prod.ext ?_ rfl, ?_⟩
  · decide +kernel
  · rintro ⟨-, roles, answer, held⟩
    have nothing : (((start "a" { adminRole := " " } {}).2.create 0 "alice"
        ⟨"docs", "Docs", ""⟩).2.run 0 (Authority.roles "alice" "docs")).1 = .ok [] := by
      decide +kernel
    obtain rfl := Except.ok.inj (nothing.symm.trans answer)
    cases held

end Cluster

end Entitlement
