import Entitlement.Index.Link
import Entitlement.Proofs.Mirror

/-!
# Links are chains of assignments

The breadth-first search behind a link finds only ends of chains of assignments, and it finds the
end of every chain of fewer assignments than the hierarchy limit. The depth counter causes the only
doubt: it must never run ahead of the length of the shortest chain to a name that is still queued.
-/

namespace Entitlement

/-- A walk of so many steps along `above`. -/
inductive Walk (above : String → List String) (start : String) : Nat → String → Prop
  | here : Walk above start 0 start
  | up {n : Nat} {name next : String} (walk : Walk above start n name)
      (step : next ∈ above name) : Walk above start (n + 1) next

namespace LinkSearch

variable {above : String → List String} {origin target : String} {past : List String}
  {s : LinkSearch}

/-- Meeting names queues those that are new, each once. -/
theorem meet_spec (names : List String) (s : LinkSearch) :
    ∃ fresh : List String, (s.meet names).queue = s.queue ++ fresh ∧
      (∀ name, name ∈ (s.meet names).met ↔ name ∈ s.met ∨ name ∈ fresh) ∧
      (s.meet names).depth = s.depth ∧ fresh.Nodup ∧
      ∀ name, name ∈ fresh ↔ name ∈ names ∧ name ∉ s.met := by
  induction names generalizing s with
  | nil => exact ⟨[], by simp [meet], by simp [meet], rfl, .nil, by simp⟩
  | cons first rest ih =>
    by_cases known : first ∈ s.met
    -- A name that was met before is dropped.
    · have same : s.meet (first :: rest) = s.meet rest := by simp [meet, known]
      obtain ⟨fresh, queue, met, depth, nodup, members⟩ := ih s
      rw [same]
      refine ⟨fresh, queue, met, depth, nodup, fun name => ?_⟩
      rw [members, List.mem_cons]
      constructor
      · rintro ⟨inRest, new⟩
        exact ⟨.inr inRest, new⟩
      · rintro ⟨rfl | inRest, new⟩
        · exact absurd known new
        · exact ⟨inRest, new⟩
    -- A new name goes to the end of the queue.
    · have same : s.meet (first :: rest) =
          meet { s with queue := s.queue ++ [first], met := first :: s.met } rest := by
        simp [meet, known]
      obtain ⟨fresh, queue, met, depth, nodup, members⟩ :=
        ih { s with queue := s.queue ++ [first], met := first :: s.met }
      rw [same]
      refine ⟨first :: fresh, by simp [queue], fun name => ?_, depth, ?_, fun name => ?_⟩
      · rw [met, List.mem_cons, List.mem_cons]
        grind
      · exact List.nodup_cons.mpr ⟨by simp [members], nodup⟩
      · rw [List.mem_cons, members, List.mem_cons, List.mem_cons]
        grind

/-- What holds of a search from `origin` that has visited the names in `past`. -/
structure Searching (above : String → List String) (origin : String) (past : List String)
    (s : LinkSearch) : Prop where
  met : ∀ name, name ∈ s.met ↔ name ∈ past ∨ name ∈ s.queue
  begun : origin ∈ s.met
  nodup : (past ++ s.queue).Nodup
  closed : ∀ name ∈ past, ∀ next ∈ above name, next ∈ s.met
  reached : ∀ name ∈ s.queue, ∃ n, Walk above origin n name
  /-- The depth counter never exceeds the distance of a name in the queue. -/
  far : ∀ name ∈ s.queue, ∀ n, Walk above origin n name → s.depth ≤ n

theorem Searching.start (above : String → List String) (name : String) :
    Searching above name [] (.start name) where
  met := by simp [LinkSearch.start]
  begun := by simp [LinkSearch.start]
  nodup := by simp [LinkSearch.start]
  closed := nofun
  reached := by
    intro other member
    rw [List.mem_singleton.mp member]
    exact ⟨0, .here⟩
  far := fun _ _ n _ => Nat.zero_le n

namespace Searching

/-- A walk to a name that was not visited leads through the queue. -/
theorem through (searching : Searching above origin past s) {n : Nat} {name : String}
    (walk : Walk above origin n name) (unvisited : name ∉ past) :
    ∃ queued ∈ s.queue, ∃ m ≤ n, Walk above origin m queued ∧ (queued = name ∨ m < n) := by
  induction walk with
  | here =>
    rcases (searching.met _).mp searching.begun with inPast | queued
    · exact absurd inPast unvisited
    · exact ⟨_, queued, 0, Nat.le_refl 0, .here, .inl rfl⟩
  | @up n name next walk step ih =>
    by_cases visited : name ∈ past
    -- The last step leaves the past, so it ends in the queue.
    · rcases (searching.met next).mp (searching.closed name visited next step) with
        inPast | queued
      · exact absurd inPast unvisited
      · exact ⟨next, queued, n + 1, Nat.le_refl _, walk.up step, .inl rfl⟩
    -- The walk left the past before.
    · obtain ⟨queued, member, m, le, shorter, -⟩ := ih visited
      exact ⟨queued, member, m, by omega, shorter, .inr (by omega)⟩

/-- One visit moves the first name of the queue to the past. -/
theorem visit (searching : Searching above origin past s) {name : String} {later : LinkSearch}
    (visited : s.visit above = some (name, later)) :
    name ∈ s.queue ∧ Searching above origin (past ++ [name]) later := by
  unfold LinkSearch.visit at visited
  split at visited
  · cases visited
  next first rest queue =>
    simp only [Option.some.injEq, Prod.mk.injEq] at visited
    obtain ⟨rfl, rfl⟩ := visited
    obtain ⟨fresh, queued, met, depth, nodup, members⟩ := meet_spec (above first)
      { s with queue := rest, depth := if rest.isEmpty then s.depth + 1 else s.depth }
    simp only at queued met depth members
    have inQueue : first ∈ s.queue := by rw [queue]; exact List.mem_cons_self
    have known (other : String) : other ∈ s.met ↔ other ∈ past ∨ other = first ∨ other ∈ rest := by
      rw [searching.met, queue, List.mem_cons]
    refine ⟨inQueue, ?_⟩
    constructor
    case met =>
      intro other
      rw [met, known, queued, List.mem_append, List.mem_append, List.mem_singleton]
      grind
    case begun => exact (met _).mpr (.inl searching.begun)
    case nodup =>
      have before := searching.nodup
      rw [queue] at before
      have new : ∀ other ∈ fresh, other ∉ past ∧ other ≠ first ∧ other ∉ rest := by
        intro other member
        have unknown := ((members other).mp member).2
        rw [known] at unknown
        grind
      rw [queued, List.append_assoc, List.singleton_append, ← List.cons_append, ← List.append_assoc,
        List.nodup_append]
      refine ⟨before, nodup, ?_⟩
      intro other inOld another inFresh same
      subst same
      have := new other inFresh
      rw [List.mem_append, List.mem_cons] at inOld
      grind
    case closed =>
      intro other member next step
      rcases List.mem_append.mp member with inPast | isFirst
      · exact (met next).mpr (.inl (searching.closed other inPast next step))
      · rw [List.mem_singleton.mp isFirst] at step
        by_cases old : next ∈ s.met
        · exact (met next).mpr (.inl old)
        · exact (met next).mpr (.inr ((members next).mpr ⟨step, old⟩))
    case reached =>
      intro other member
      rw [queued, List.mem_append] at member
      rcases member with inRest | inFresh
      · exact searching.reached other (by rw [queue]; exact List.mem_cons_of_mem _ inRest)
      · obtain ⟨n, walk⟩ := searching.reached first inQueue
        exact ⟨n + 1, walk.up ((members other).mp inFresh).1⟩
    case far =>
      intro other member n walk
      rw [depth]
      rw [queued, List.mem_append] at member
      rcases member with inRest | inFresh
      -- The queue does not run empty, so the counter stays.
      · have filled : rest.isEmpty = false := by
          cases rest with
          | nil => cases inRest
          | cons _ _ => rfl
        rw [filled]
        exact searching.far other (by rw [queue]; exact List.mem_cons_of_mem _ inRest) n walk
      -- A new name is farther away than some name of the queue, so one more does no harm.
      · have unknown := ((members other).mp inFresh).2
        have unvisited : other ∉ past := fun inPast => unknown ((searching.met _).mpr (.inl inPast))
        obtain ⟨through, isQueued, m, le, shorter, strict⟩ := searching.through walk unvisited
        have deep := searching.far through isQueued m shorter
        have different : through ≠ other := by
          rintro rfl
          exact unknown ((searching.met _).mpr (.inr isQueued))
        have less : m < n := strict.resolve_left different
        split <;> omega

end Searching

theorem walk_of_finds (searching : Searching above origin past s) {visits : Nat}
    (found : finds above target visits s = true) : ∃ n, Walk above origin n target := by
  induction visits generalizing past s with
  | zero => cases found
  | succ visits ih =>
    simp only [finds] at found
    split at found
    · split at found
      · cases found
      next name later visited =>
        obtain ⟨inQueue, searchingOn⟩ := searching.visit visited
        -- The target is the name just visited, or it is found later.
        rcases Bool.or_eq_true_iff.mp found with same | foundLater
        · rw [← eq_of_beq same]
          exact searching.reached name inQueue
        · exact ih searchingOn foundLater
    · cases found

/-- A search that may still make as many visits as there are names left finds the end of every
walk that is shorter than the limit. -/
theorem finds_of_walk (searching : Searching above origin past s) {names : List String}
    (inside : ∀ n name, Walk above origin n name → name ∈ names)
    (visitedInside : ∀ name ∈ past, name ∈ names) {visits : Nat}
    (enough : names.length ≤ visits + past.length) {n : Nat} (short : n < hierarchyLimit)
    (walk : Walk above origin n target) (unvisited : target ∉ past) :
    finds above target visits s = true := by
  induction visits generalizing past s with
  | zero =>
    -- All names are visited already, and the target would be one more.
    have distinct : (target :: past).Nodup :=
      List.nodup_cons.mpr ⟨unvisited, (List.nodup_append.mp searching.nodup).1⟩
    have within : target :: past ⊆ names := by
      intro name member
      rcases List.mem_cons.mp member with rfl | inPast
      · exact inside n _ walk
      · exact visitedInside name inPast
    have bound := distinct.length_le_of_subset within
    rw [List.length_cons] at bound
    omega
  | succ visits ih =>
    -- The walk to the target leads through the queue: it is not empty, and not too deep.
    obtain ⟨queued, isQueued, m, le, shorter, -⟩ := searching.through walk unvisited
    have deep := searching.far queued isQueued m shorter
    have goesOn : s.depth < hierarchyLimit := by omega
    simp only [finds, goesOn, if_true]
    split
    next nothing =>
      unfold LinkSearch.visit at nothing
      split at nothing
      next empty =>
        rw [empty] at isQueued
        cases isQueued
      · cases nothing
    next name later visited =>
      obtain ⟨inQueue, searchingOn⟩ := searching.visit visited
      by_cases same : name = target
      · simp [same]
      · rw [ih searchingOn, Bool.or_true]
        · intro other member
          rcases List.mem_append.mp member with inPast | isNew
          · exact visitedInside other inPast
          · rw [List.mem_singleton.mp isNew]
            obtain ⟨reach, toName⟩ := searching.reached name inQueue
            exact inside reach name toName
        · rw [List.length_append, List.length_singleton]
          omega
        · rw [List.mem_append, List.mem_singleton]
          rintro (inPast | isNew)
          · exact unvisited inPast
          · exact same isNew.symm

/-- When every name has been visited, nothing is left in the queue. -/
theorem Searching.queue_eq_nil (searching : Searching above origin past s) {names : List String}
    (inside : ∀ n name, Walk above origin n name → name ∈ names)
    (visitedInside : ∀ name ∈ past, name ∈ names) (enough : names.length ≤ past.length) :
    s.queue = [] := by
  have within : past ++ s.queue ⊆ names := by
    intro name member
    rcases List.mem_append.mp member with inPast | queued
    · exact visitedInside name inPast
    · obtain ⟨n, walk⟩ := searching.reached name queued
      exact inside n name walk
  have bound := searching.nodup.length_le_of_subset within
  rw [List.length_append] at bound
  exact List.length_eq_zero_iff.mp (by omega)

theorem finds_of_queue_eq_nil (empty : s.queue = []) (visits : Nat) :
    finds above target visits s = false := by
  cases visits with
  | zero => rfl
  | succ visits => simp [finds, visit, empty]

/-- From as many visits on as there are names left, more of them find nothing more. -/
theorem finds_eq_of_enough (searching : Searching above origin past s) {names : List String}
    (inside : ∀ n name, Walk above origin n name → name ∈ names)
    (visitedInside : ∀ name ∈ past, name ∈ names) {visits others : Nat}
    (enough : names.length ≤ visits + past.length)
    (enoughOthers : names.length ≤ others + past.length) :
    finds above target visits s = finds above target others s := by
  induction visits generalizing past s others with
  | zero =>
    have empty := searching.queue_eq_nil inside visitedInside (by omega)
    rw [finds_of_queue_eq_nil empty, finds_of_queue_eq_nil empty]
  | succ visits ih =>
    cases others with
    | zero =>
      have empty := searching.queue_eq_nil inside visitedInside (by omega)
      rw [finds_of_queue_eq_nil empty, finds_of_queue_eq_nil empty]
    | succ others =>
      simp only [finds]
      split
      · split
        · rfl
        next name later visited =>
          -- Both searches make the same visit and have one less to make.
          obtain ⟨inQueue, searchingOn⟩ := searching.visit visited
          have within : ∀ other ∈ past ++ [name], other ∈ names := by
            intro other member
            rcases List.mem_append.mp member with inPast | isNew
            · exact visitedInside other inPast
            · obtain ⟨n, walk⟩ := searching.reached name inQueue
              exact List.mem_singleton.mp isNew ▸ inside n name walk
          have longer : (past ++ [name]).length = past.length + 1 := List.length_append
          have rest : finds above target visits later = finds above target others later :=
            ih searchingOn within (by omega) (by omega)
          rw [rest]
      · rfl

end LinkSearch

namespace Index

variable {i : Index} {domain name role : String}

/-- So many assignments in the domain lead from one name to the other. -/
inductive Chain (i : Index) (domain start : String) : Nat → String → Prop
  | here : Chain i domain start 0 start
  | up {n : Nat} {name role : String} (chain : Chain i domain start n name)
      (assigned : ⟨name, role, domain⟩ ∈ i.assignments) : Chain i domain start (n + 1) role

theorem mem_rolesAbove : role ∈ i.rolesAbove domain name ↔
    ⟨name, role, domain⟩ ∈ i.assignments ∧ role ≠ name := by
  simp only [rolesAbove, List.mem_reverse, List.mem_map, List.mem_filter, Bool.and_eq_true,
    beq_iff_eq, bne_iff_ne]
  constructor
  · rintro ⟨⟨u, r, d⟩, ⟨member, ⟨rfl, rfl⟩, other⟩, rfl⟩
    exact ⟨member, other⟩
  · rintro ⟨member, other⟩
    exact ⟨_, ⟨member, ⟨rfl, rfl⟩, other⟩, rfl⟩

theorem chain_of_walk {n : Nat} (walk : Walk (i.rolesAbove domain) name n role) :
    i.Chain domain name n role := by
  induction walk with
  | here => exact .here
  | up _ step ih => exact ih.up (mem_rolesAbove.mp step).1

/-- The search does not follow an assignment of a name to itself, which a walk can leave out. -/
theorem walk_of_chain {n : Nat} (chain : i.Chain domain name n role) :
    ∃ m ≤ n, Walk (i.rolesAbove domain) name m role := by
  induction chain with
  | here => exact ⟨0, Nat.le_refl 0, .here⟩
  | @up n middle role _ assigned ih =>
    obtain ⟨m, le, walk⟩ := ih
    by_cases same : role = middle
    -- An assignment of a name to itself leads nowhere.
    · exact ⟨m, by omega, same ▸ walk⟩
    · exact ⟨m + 1, by omega, walk.up (mem_rolesAbove.mpr ⟨assigned, same⟩)⟩

theorem chain_of_linked (linked : i.linked name role domain = true) :
    ∃ n, i.Chain domain name n role := by
  rcases Bool.or_eq_true_iff.mp linked with same | found
  · rw [← eq_of_beq same]
    exact ⟨0, .here⟩
  · obtain ⟨n, walk⟩ := LinkSearch.walk_of_finds (.start _ _) found
    exact ⟨n, chain_of_walk walk⟩

/-- The ends of a chain that is shorter than the limit are linked. -/
theorem linked_of_chain {n : Nat} (short : n < hierarchyLimit)
    (chain : i.Chain domain name n role) : i.linked name role domain = true := by
  obtain ⟨m, le, walk⟩ := walk_of_chain chain
  -- Only the name itself and assigned roles can be met, so the visits suffice.
  have inside : ∀ n other, Walk (i.rolesAbove domain) name n other →
      other ∈ name :: i.assignments.map (·.role) := by
    intro n other walk
    cases walk with
    | here => exact List.mem_cons_self
    | up _ step =>
      exact List.mem_cons_of_mem _ (List.mem_map.mpr ⟨_, (mem_rolesAbove.mp step).1, rfl⟩)
  rw [Index.linked, LinkSearch.finds_of_walk (.start _ _) inside nofun _ (by omega) walk
    List.not_mem_nil, Bool.or_true]
  simp

theorem rolesAbove_congr {j : Index}
    (same : i.assignments.filter (·.domain == domain) = j.assignments.filter (·.domain == domain)) :
    i.rolesAbove domain = j.rolesAbove domain := by
  funext name
  have split (k : Index) : k.rolesAbove domain name =
      (((k.assignments.filter (·.domain == domain)).filter fun a =>
        a.user == name && a.role != name).map (·.role)).reverse := by
    rw [List.filter_filter, rolesAbove]
    congr 3
    funext a
    cases a.domain == domain <;> simp
  rw [split, split, same]

/-- Assignments in other domains have no part in a link, not even by their number. -/
theorem linked_congr {j : Index}
    (same : i.assignments.filter (·.domain == domain) = j.assignments.filter (·.domain == domain)) :
    i.linked name role domain = j.linked name role domain := by
  have inside : ∀ n other, Walk (j.rolesAbove domain) name n other →
      other ∈ name :: (j.assignments.filter (·.domain == domain)).map (·.role) := by
    intro n other walk
    cases walk with
    | here => exact List.mem_cons_self
    | up _ step =>
      have assigned := (mem_rolesAbove.mp step).1
      apply List.mem_cons_of_mem
      exact List.mem_map.mpr ⟨_, List.mem_filter.mpr ⟨assigned, by simp⟩, rfl⟩
  have fewer := List.length_filter_le (·.domain == domain) i.assignments
  have fewerToo := List.length_filter_le (·.domain == domain) j.assignments
  rw [same] at fewer
  rw [linked, linked, rolesAbove_congr same]
  congr 1
  apply LinkSearch.finds_eq_of_enough (.start _ _) inside
  · intro other member
    cases member
  · simpa using fewer
  · simpa using fewerToo

theorem linked_of_assigned (assigned : ⟨name, role, domain⟩ ∈ i.assignments) :
    i.linked name role domain = true :=
  linked_of_chain (by decide) (Chain.here.up assigned)

end Index

end Entitlement
