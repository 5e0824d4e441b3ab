import Entitlement.Proofs.Traffic

/-!
# The course of a call

The course of a call is what it has done so far: its actions in their order, each with the answer
that it was given. Here a call is judged by its course. Whatever it is answered, each of its steps
has to be one that a rule allows after the course before it, and when the call is done its course
and its value have to fit together.
-/

namespace Entitlement

/-- An action and the answer that it was given. -/
abbrev Step := (a : Action) × a.Answer

instance : (a : Action) → DecidableEq a.Answer
  | .write .. => inferInstanceAs (DecidableEq (Except StoreFailure Unit))
  | .query .. => inferInstanceAs (DecidableEq (Except StoreFailure (List Fact)))
  | .probe => inferInstanceAs (DecidableEq (Except StoreFailure Unit))
  | .publish .. => inferInstanceAs (DecidableEq (Except SignalFailure Unit))
  | .subscribe => inferInstanceAs (DecidableEq (Except SignalFailure Nat))
  | .register .. => inferInstanceAs (DecidableEq (Except StoreFailure Namespace))
  | .listing .. => inferInstanceAs (DecidableEq (Except StoreFailure (Page Namespace)))
  | .readIndex => inferInstanceAs (DecidableEq Index)
  | .unsubscribe .. | .acquireLock | .releaseLock | .swapIndex .. | .note .. =>
    inferInstanceAs (DecidableEq Unit)

/-- What the step writes, if it is not refused. -/
def Step.written? : Step → Option (Change × Fact)
  | ⟨.write change fact, _⟩ => some (change, fact)
  | _ => none

def Action.writes : Action → Bool
  | write .. => true
  | _ => false

/-- Steps that leave the store as it is. -/
def Plain (steps : List Step) : Prop := ∀ step ∈ steps, step.1.writes = false

theorem Plain.append {steps others : List Step} (one : Plain steps) (two : Plain others) :
    Plain (steps ++ others) := by
  intro step member
  rcases List.mem_append.mp member with inOne | inTwo
  · exact one step inOne
  · exact two step inTwo

/-- An index is swapped in among these steps. -/
def Refreshing (steps : List Step) : Prop := ∃ index, ⟨.swapIndex index, ()⟩ ∈ steps

/-- A rule that concerns writes only. -/
def Lenient (allowed : List Step → Step → Prop) : Prop :=
  ∀ course step, step.1.writes = false → allowed course step

/-- The rule that allows everything. -/
def Anything (_course : List Step) (_step : Step) : Prop := True

theorem lenient_anything : Lenient Anything := fun _ _ _ => trivial

namespace Call

variable {α β : Type} {allowed : List Step → Step → Prop}

/-- What is left of a call after the course keeps to the rule, and `ends` holds of its whole course
and its value. -/
def Abides (allowed : List Step → Step → Prop) (ends : List Step → α → Prop) :
    List Step → Call α → Prop
  | course, done value => ends course value
  | course, act a next => ∀ answer, allowed course ⟨a, answer⟩ ∧
      (next answer).Abides allowed ends (course ++ [⟨a, answer⟩])

theorem Abides.bind {mid : List Step → α → Prop} {ends : List Step → β → Prop}
    {course : List Step} {first : Call α} {next : α → Call β}
    (abides : first.Abides allowed mid course)
    (goesOn : ∀ later value, mid later value → (next value).Abides allowed ends later) :
    (first >>= next).Abides allowed ends course := by
  induction first generalizing course with
  | done value => exact goesOn course value abides
  | act a rest ih => exact fun answer => ⟨(abides answer).1, ih answer (abides answer).2⟩

theorem Abides.imp {mid ends : List Step → α → Prop} {course : List Step} {call : Call α}
    (abides : call.Abides allowed mid course)
    (weaker : ∀ later value, mid later value → ends later value) :
    call.Abides allowed ends course := by
  induction call generalizing course with
  | done value => exact weaker course value abides
  | act a rest ih => exact fun answer => ⟨(abides answer).1, ih answer (abides answer).2⟩

/-- The course only grows. -/
theorem Abides.grown {ends : List Step → α → Prop} {course : List Step} {call : Call α}
    (abides : call.Abides allowed ends course) :
    call.Abides allowed (fun later value => course <+: later ∧ ends later value) course := by
  induction call generalizing course with
  | done value => exact ⟨List.prefix_refl course, abides⟩
  | act a rest ih =>
    refine fun answer => ⟨(abides answer).1, (ih answer (abides answer).2).imp ?_⟩
    rintro later value ⟨longer, holds⟩
    exact ⟨(List.prefix_append course _).trans longer, holds⟩

theorem Abides.of_plain {ends : List Step → β → Prop} {course : List Step} {a : Action}
    {next : a.Answer → Call β} (lenient : Lenient allowed) (plain : a.writes = false)
    (goesOn : ∀ answer, (next answer).Abides allowed ends (course ++ [⟨a, answer⟩])) :
    (act a next).Abides allowed ends course :=
  fun answer => ⟨lenient course ⟨a, answer⟩ plain, goesOn answer⟩

theorem abides_look (lenient : Lenient allowed) (question : Index → α) (course : List Step) :
    (look question).Abides allowed
      (fun later value => ∃ index, later = course ++ [⟨.readIndex, index⟩] ∧
        value = question index) course :=
  .of_plain lenient rfl fun index => ⟨index, rfl, rfl⟩

theorem abides_note (lenient : Lenient allowed) (e : Event) (course : List Step) :
    (note e).Abides allowed
      (fun later _ => later = course ++ [⟨.note (.event e), ()⟩]) course :=
  .of_plain lenient rfl fun _ => rfl

end Call

namespace Attempt

open Call (Abides)

variable {α β : Type} {allowed : List Step → Step → Prop}
  {ends : List Step → Except Failure β → Prop} {course : List Step}

theorem abides_of_check {check : Except Failure α} {next : α → Attempt β}
    (passed : ∀ value, check = .ok value → (next value).run.Abides allowed ends course)
    (refused : ∀ cause, check = .error cause → ends course (.error cause)) :
    (liftM check >>= next : Attempt β).run.Abides allowed ends course := by
  cases outcome : check with
  | ok value => exact passed value outcome
  | error cause => exact refused cause outcome

theorem abides_of_call {call : Call α} {next : α → Attempt β} {mid : List Step → α → Prop}
    (abides : call.Abides allowed mid course)
    (goesOn : ∀ later value, mid later value → (next value).run.Abides allowed ends later) :
    (liftM call >>= next : Attempt β).run.Abides allowed ends course := by
  simp only [run_bind, run_liftCall, bind_assoc, Call.done_bind]
  exact Abides.bind abides goesOn

theorem abides_of_outcome {attempt : Attempt α} {next : Except Failure α → Attempt β}
    {mid : List Step → Except Failure α → Prop} (abides : attempt.run.Abides allowed mid course)
    (goesOn : ∀ later result, mid later result → (next result).run.Abides allowed ends later) :
    (attempt.outcome >>= next).run.Abides allowed ends course :=
  abides_of_call abides goesOn

end Attempt

namespace Replica

open Call (Abides)

variable {allowed : List Step → Step → Prop}

/-- A rebuild that succeeds has swapped an index in. -/
theorem abides_rebuild (lenient : Lenient allowed) (id : String) (course : List Step) :
    (rebuild id).run.Abides allowed
      (fun later result => ∃ steps, later = course ++ steps ∧ Plain steps ∧
        (result = .ok () → Refreshing steps)) course := by
  simp only [rebuild, Call.perform, Call.act_bind, Call.done_bind]
  refine .of_plain lenient rfl fun _ => .of_plain lenient rfl fun grants => ?_
  cases grants with
  | error cause =>
    refine .of_plain lenient rfl fun _ => .of_plain lenient rfl fun _ => ?_
    refine .of_plain lenient rfl fun _ => ?_
    exact ⟨_, by simp only [List.append_assoc]; rfl, by simp [Plain, Action.writes], fun h => by cases h⟩
  | ok grants =>
    refine .of_plain lenient rfl fun assignments => ?_
    cases assignments with
    | error cause =>
      refine .of_plain lenient rfl fun _ => .of_plain lenient rfl fun _ => ?_
      refine .of_plain lenient rfl fun _ => ?_
      exact ⟨_, by simp only [List.append_assoc]; rfl, by simp [Plain, Action.writes], fun h => by cases h⟩
    | ok assignments =>
      refine .of_plain lenient rfl fun _ => .of_plain lenient rfl fun _ => ?_
      refine .of_plain lenient rfl fun _ => .of_plain lenient rfl fun _ => ?_
      refine .of_plain lenient rfl fun _ => ?_
      refine ⟨_, by simp only [List.append_assoc]; rfl, by simp [Plain, Action.writes], fun _ => ?_⟩
      exact ⟨.ofAnswers grants assignments, by simp⟩

theorem abides_announce (lenient : Lenient allowed) (id : String) (course : List Step) :
    (announce id).Abides allowed (fun later _ => ∃ steps, later = course ++ steps ∧ Plain steps)
      course := by
  refine .of_plain lenient rfl fun answer => ?_
  cases answer with
  | ok => exact ⟨_, rfl, by simp [Plain, Action.writes]⟩
  | error cause =>
    refine .of_plain lenient rfl fun _ => .of_plain lenient rfl fun _ => ?_
    exact ⟨_, by simp only [List.append_assoc]; rfl, by simp [Plain, Action.writes]⟩

/-- What a commit can do, and what it reports of it. -/
inductive Committing (change : Change) (fact : Fact) : List Step → Except Failure Unit → Prop
  | refused (cause : StoreFailure) :
      Committing change fact [⟨.write change fact, .error cause⟩] (.error (.store cause))
  -- The fact is written, and the rebuild has failed.
  | stale {rest : List Step} (plain : Plain rest) (cause : Failure) :
      Committing change fact (⟨.write change fact, .ok ()⟩ :: rest) (.error (.stale cause))
  | done {rest : List Step} (plain : Plain rest) (refreshing : Refreshing rest) :
      Committing change fact (⟨.write change fact, .ok ()⟩ :: rest) (.ok ())

theorem abides_commit (lenient : Lenient allowed) (id : String) {change : Change} {fact : Fact}
    {course : List Step} (may : ∀ answer, allowed course ⟨.write change fact, answer⟩) :
    (commit id change fact).run.Abides allowed
      (fun later result => ∃ steps, later = course ++ steps ∧
        Committing change fact steps result) course := by
  simp only [commit, Attempt.ofStore, Attempt.run_bind, Attempt.run_outcome, Attempt.run_liftCall,
    Call.perform, Call.act_bind, Call.done_bind, Call.pure_eq, bind_assoc]
  refine fun answer => ⟨may answer, ?_⟩
  cases answer with
  | error cause => exact ⟨_, rfl, .refused cause⟩
  | ok =>
    refine Abides.bind (abides_rebuild lenient id _) ?_
    rintro _ rebuilt ⟨work, rfl, plain, refreshing⟩
    refine Abides.bind (abides_announce lenient id _) ?_
    rintro _ _ ⟨told, rfl, quiet⟩
    have whole : course ++ [⟨.write change fact, .ok ()⟩] ++ work ++ told =
        course ++ ⟨.write change fact, .ok ()⟩ :: (work ++ told) := by simp
    cases rebuilt with
    | error cause => exact ⟨_, whole, .stale (plain.append quiet) cause⟩
    | ok =>
      obtain ⟨index, member⟩ := refreshing rfl
      exact ⟨_, whole, .done (plain.append quiet) ⟨index, List.mem_append_left told member⟩⟩

end Replica

/-! ### Looking at several indexes -/

/-- A look at the index of the moment. -/
def looked (index : Index) : Step := ⟨.readIndex, index⟩

theorem plain_looked (indexes : List Index) : Plain (indexes.map looked) := by
  intro step member
  obtain ⟨index, -, rfl⟩ := List.mem_map.mp member
  rfl

/-- The permissions of each role as the index that goes with it has them. -/
def Index.permissionsAlong (held : List String) (indexes : List Index) : List String :=
  (List.zipWith (fun role index => (index.grantsOf role none).map Grant.permission) held
    indexes).flatten

/-- Each role is looked up in an index of its own. -/
theorem Authority.abides_permissionsOfRoles {allowed : List Step → Step → Prop}
    (lenient : Lenient allowed) (held : List String) (course : List Step) :
    (permissionsOfRoles held).Abides allowed
      (fun later granted => ∃ indexes : List Index, later = course ++ indexes.map looked ∧
        indexes.length = held.length ∧ granted = Index.permissionsAlong held indexes) course := by
  induction held generalizing course with
  | nil => exact ⟨[], (List.append_nil _).symm, rfl, rfl⟩
  | cons role rest ih =>
    refine Call.Abides.bind (Call.abides_look lenient _ course) ?_
    rintro _ grants ⟨index, rfl, rfl⟩
    refine Call.Abides.bind (ih _) ?_
    rintro _ others ⟨indexes, rfl, length, rfl⟩
    exact ⟨index :: indexes, by simp [looked], congrArg Nat.succ length, rfl⟩

end Entitlement
