import Entitlement.Proofs.Provenance

/-!
# Answers from several indexes

The permissions of a user are looked up in two stages: the roles in the index of one moment, and the
grants of each role in the index of a later moment. Each of these indexes is one that the replica
serves at that moment. If no other index is swapped in meanwhile, the answer is the one that this
index gives. Otherwise it need not be the answer of any index.
-/

namespace Entitlement

open Call (Abides)

/-! ### The courses of questions -/

namespace Authority

variable {user domain object action : String}

/-- The course of a call that looks the roles up in one index and the grants of each role in an
index of its own. -/
def Gathers (user domain : String) (course : List Step) (granted : List String) : Prop :=
  ∃ first others, course = (first :: others).map looked ∧
    others.length = (first.rolesOf user domain).length ∧
    granted = Index.permissionsAlong (first.rolesOf user domain) others

theorem abides_roles :
    (roles user domain).run.Abides Anything
      (fun course result => ∀ held, result = .ok held →
        ∃ index : Index, course = [looked index] ∧ held = index.rolesOf user domain) [] := by
  refine Attempt.abides_of_check (fun _ _ => ?_) nofun
  refine Attempt.abides_of_check (fun _ _ => ?_) nofun
  refine Abides.bind (Call.abides_look lenient_anything _ []) ?_
  rintro course held ⟨index, rfl, rfl⟩ _ ⟨⟩
  exact ⟨index, rfl, rfl⟩

theorem abides_permissions :
    (permissions user domain).run.Abides Anything
      (fun course result => ∀ granted, result = .ok granted → Gathers user domain course granted)
      [] := by
  refine Abides.bind abides_roles ?_
  intro course result found
  cases result with
  | error cause => nofun
  | ok held =>
    obtain ⟨first, rfl, rfl⟩ := found held rfl
    refine Abides.bind (abides_permissionsOfRoles lenient_anything _ _) ?_
    rintro _ granted ⟨others, rfl, length, rfl⟩ _ ⟨⟩
    exact ⟨first, others, rfl, length, rfl⟩

theorem abides_allows :
    (allows user domain object action).run.Abides Anything
      (fun course result => ∀ verdict, result = .ok verdict →
        ∃ granted, Gathers user domain course granted ∧
          verdict = granted.contains (permissionKey object action)) [] := by
  refine Attempt.abides_of_check (fun _ _ => ?_) nofun
  refine Attempt.abides_of_check (fun _ _ => ?_) nofun
  refine Abides.bind abides_permissions ?_
  intro course result gathers
  cases result with
  | error cause => nofun
  | ok granted =>
    rintro _ ⟨⟩
    exact ⟨granted, gathers granted rfl, rfl⟩

end Authority

/-- A question about the permissions of a user, and its answer when these are the permissions. -/
inductive Policy.Request.Asks (user domain : String) :
    Policy.Request → (List String → Policy.Response) → Prop
  | permissions : Asks user domain (.permissions user domain) .names
  | allows (object action : String) : Asks user domain (.allows user domain object action)
      fun granted => .verdict (granted.contains (permissionKey object action))

theorem Policy.Request.Asks.abides {user domain : String} {r : Policy.Request}
    {answer : List String → Policy.Response} (asks : r.Asks user domain answer) (me : Profile) :
    ((Origin.asked (.request r)).call me).Abides Anything
      (fun course outcome => ∀ response, outcome = .served (.ok response) →
        ∃ granted, Authority.Gathers user domain course granted ∧ response = answer granted)
      [] := by
  cases asks with
  | permissions => exact Origin.abides_of_request rfl Authority.abides_permissions
  | allows object action =>
    refine (Origin.abides_of_request rfl Authority.abides_allows).imp ?_
    intro course outcome holds response served
    obtain ⟨verdict, ⟨granted, gathers, rfl⟩, rfl⟩ := holds response served
    exact ⟨granted, gathers, rfl⟩

/-- Looking at the same index every time is looking at it once. -/
theorem Index.permissionsAlong_of_same {index : Index} {held : List String} {others : List Index}
    (length : others.length = held.length) (same : ∀ other ∈ others, other = index) :
    permissionsAlong held others =
      held.flatMap fun role => (index.grantsOf role none).map Grant.permission := by
  induction held generalizing others with
  | nil => rfl
  | cons role rest ih =>
    cases others with
    | nil => cases length
    | cons first others =>
      obtain rfl := same first List.mem_cons_self
      have following := ih (Nat.succ.inj length) fun other member =>
        same other (List.mem_cons_of_mem _ member)
      rw [List.flatMap_cons, ← following]
      rfl

namespace Traffic

variable {start t : Traffic} {turns : List Turn} {n k : Nat}

/-- Whoever looks at the index sees the one that the replica serves at the moment. -/
theorem Opening.index_of_look (opening : start.Opening) (played : start.play turns = some t)
    {m : Nat} {index : Index}
    (found : (start.chronicle turns)[m]? = some (.acted n k (looked index))) :
    ∃ u, start.play (turns.take m) = some u ∧ u.fleet.indexOf k = index := by
  obtain ⟨u, w, before, after, reached, -, happens⟩ :=
    happens_of_chronicle opening.obedient played found
  exact ⟨u, reached, happens.answer_of_read.symm⟩

/-- Two looks see the same index if none is swapped in between them. -/
theorem Opening.look_eq (opening : start.Opening) (played : start.play turns = some t)
    {i j : Nat} {one two : Index} (ordered : i ≤ j)
    (first : (start.chronicle turns)[i]? = some (.acted n k (looked one)))
    (second : (start.chronicle turns)[j]? = some (.acted n k (looked two)))
    (without : Without (Happening.Swaps k) (start.chronicle turns) i j) : two = one := by
  obtain ⟨u, atFirst, served⟩ := opening.index_of_look played first
  obtain ⟨v, atSecond, rfl⟩ := opening.index_of_look played second
  refine of_span (P := fun v => v.fleet.indexOf k = one) opening.obedient played ordered ?_ atFirst
    atSecond served
  intro m h x y before after from_ inside found _ happens kept
  have unswapped : ¬ h.Swaps k := by
    rcases Nat.lt_or_eq_of_le from_ with later | rfl
    · exact without m h later inside found
    · obtain rfl := Option.some.inj (first.symm.trans found)
      rintro ⟨_, _, ⟨⟩⟩
  exact (happens.indexOf_eq unswapped).trans kept

/-- No index is swapped in between two looks of the call. -/
def Steadily (past : List Happening) (n k : Nat) : Prop :=
  ∀ i j one two, past[i]? = some (.acted n k (looked one)) →
    past[j]? = some (.acted n k (looked two)) → Without (Happening.Swaps k) past i j

theorem Opening.look_eq_of_steadily (opening : start.Opening)
    (played : start.play turns = some t) (steadily : Steadily (start.chronicle turns) n k)
    {i j : Nat} {one two : Index}
    (first : (start.chronicle turns)[i]? = some (.acted n k (looked one)))
    (second : (start.chronicle turns)[j]? = some (.acted n k (looked two))) : two = one := by
  rcases le_total i j with ordered | ordered
  · exact opening.look_eq played ordered first second (steadily i j one two first second)
  · exact (opening.look_eq played ordered second first (steadily j i two one second first)).symm

section Results

variable {capacity : Nat} {relations : Relations} {replicas : List Member}
  {storeFaults : List (Fault Occasion StoreEffect)}
  {signalFaults : List (Fault Occasion SignalFailure)}

/-- What a question about permissions is answered, however the swaps fall between its looks: the
roles are those of the first index that it looks at, and the grants of each role are those of a
later one. Each index is the one that the replica serves at the moment of the look. If none is
swapped in between two looks, the answer is the one of the first index. -/
theorem answer_eq_permissionsAlong
    (played : (gathered capacity relations replicas storeFaults signalFaults).play turns = some t)
    {user domain : String} {r : Policy.Request} {answer : List String → Policy.Response}
    {response : Policy.Response} (asks : r.Asks user domain answer)
    (begun : .began n k (.asked (.request r)) ∈
      (gathered capacity relations replicas storeFaults signalFaults).chronicle turns)
    (ended : t.outcomeOf? n = some (.served (.ok response))) :
    let start := gathered capacity relations replicas storeFaults signalFaults
    let past := start.chronicle turns
    ∃ first others, courseOf n past = (first :: others).map looked ∧
      others.length = (first.rolesOf user domain).length ∧
      response = answer (Index.permissionsAlong (first.rolesOf user domain) others) ∧
      (∀ index ∈ first :: others, ∃ m u, past[m]? = some (.acted n k (looked index)) ∧
        start.play (turns.take m) = some u ∧ u.fleet.indexOf k = index) ∧
      (Steadily past n k → response = answer (first.permissionsOf user domain)) := by
  intro start past
  have opening : start.Opening := opening_gathered
  obtain ⟨granted, ⟨first, others, course, length, rfl⟩, rfl⟩ :=
    (opening.recorded played).ends begun asks.abides ended response rfl
  have look {index : Index} (member : index ∈ first :: others) :
      ∃ m : Nat, past[m]? = some (.acted n k (looked index)) := by
    refine (opening.recorded played).exists_entry begun ?_
    rw [course]
    exact List.mem_map_of_mem member
  refine ⟨first, others, course, length, rfl, fun index member => ?_, fun steadily => ?_⟩
  · obtain ⟨m, found⟩ := look member
    obtain ⟨u, reached, served⟩ := opening.index_of_look played found
    exact ⟨m, u, found, reached, served⟩
  · obtain ⟨i, atFirst⟩ := look List.mem_cons_self
    have same (other : Index) (member : other ∈ others) : other = first := by
      obtain ⟨j, atOther⟩ := look (List.mem_cons_of_mem _ member)
      exact opening.look_eq_of_steadily played steadily atFirst atOther
    rw [Index.permissionsAlong_of_same length same]
    rfl

end Results

/-- A single replica over a store in which Alice is a viewer. -/
def viewerAlone : Traffic :=
  let stored : Relations := .ofFacts [.assignment ⟨"alice", "viewer", "docs"⟩]
  gathered 1 stored [⟨{ id := "a" }, stored.index⟩]

/-- Two questions about Alice look her roles up. Then her role is taken from her, and after that the
role is given a grant. In the end both questions look the grants of the role up. -/
def dividedLooks : List Turn :=
  [.begins 0 (.request (.permissions "alice" "docs")),
    .begins 0 (.request (.allows "alice" "docs" "doc" "read")), .goes 0, .goes 1,
    .begins 0 (.change .delete (.assignment ⟨"alice", "viewer", "docs"⟩))] ++
  List.replicate 10 (.goes 2) ++
  [.begins 0 (.change .insert (.grant ⟨"viewer", "docs", "doc", "read"⟩))] ++
  List.replicate 10 (.goes 3) ++ [.goes 0, .goes 1]

theorem answer_eq_permissionsAlong_divided :
    ∃ first others,
      courseOf 1 (viewerAlone.chronicle dividedLooks) = (first :: others).map looked ∧
      others.length = (first.rolesOf "alice" "docs").length ∧
      "doc#read" ∈ Index.permissionsAlong (first.rolesOf "alice" "docs") others := by
  have course : (viewerAlone.play dividedLooks).any (fun t =>
      decide (t.outcomeOf? 1 = some (.served (.ok (.verdict true))))) = true := by decide +kernel
  obtain ⟨t, played, fits⟩ := (Option.any_eq_true _ _).mp course
  have begun : .began 1 0 (.asked (.request (.allows "alice" "docs" "doc" "read"))) ∈
      viewerAlone.chronicle dividedLooks := by decide +kernel
  obtain ⟨first, others, looks, length, response, -⟩ :=
    answer_eq_permissionsAlong played (.allows "doc" "read") begun (of_decide_eq_true fits)
  have contained := (Policy.Response.verdict.inj response).symm
  exact ⟨first, others, looks, length, List.contains_iff_mem.mp contained⟩

/-- Alice is said to have a permission, and to be allowed to use it, although at no moment the
replica served an index that gave it to her. -/
theorem not_answer_of_one_index :
    ∃ t, viewerAlone.play dividedLooks = some t ∧
      t.outcomeOf? 0 = some (.served (.ok (.names ["doc#read"]))) ∧
      t.outcomeOf? 1 = some (.served (.ok (.verdict true))) ∧
      ∀ m ≤ dividedLooks.length, ∀ u, viewerAlone.play (dividedLooks.take m) = some u →
        (u.fleet.indexOf 0).permissionsOf "alice" "docs" = [] := by
  have course : (viewerAlone.play dividedLooks).any (fun t =>
      decide (t.outcomeOf? 0 = some (.served (.ok (.names ["doc#read"]))) ∧
        t.outcomeOf? 1 = some (.served (.ok (.verdict true))) ∧
        ∀ m ≤ dividedLooks.length,
          (viewerAlone.play (dividedLooks.take m)).all (fun u =>
            decide ((u.fleet.indexOf 0).permissionsOf "alice" "docs" = [])) = true)) = true := by
    decide +kernel
  obtain ⟨t, played, fits⟩ := (Option.any_eq_true _ _).mp course
  obtain ⟨names, verdict, moments⟩ := of_decide_eq_true fits
  refine ⟨t, played, names, verdict, fun m inside u reached => ?_⟩
  have nothing := moments m inside
  rw [reached, Option.all_some] at nothing
  exact of_decide_eq_true nothing

end Traffic

end Entitlement
