import Entitlement.Proofs.Action

/-!
# What a call did

The deeds of a call are what is left of its actions for somebody who watches the store, the index
and the channel: the writes, the rebuilds and the signals, in their order, each with its outcome.
-/

namespace Entitlement

def Relations.stores (r : Relations) (fact : Fact) : Bool := decide (r.Holds fact)

@[simp] theorem Relations.stores_iff {r : Relations} {fact : Fact} :
    r.stores fact = true ↔ r.Holds fact := decide_eq_true_iff

/-- A write tells by what it was refused and whether the fact is stored afterwards, a rebuild by
what it was stopped, a signal by what it was lost. -/
inductive Deed where
  | wrote (change : Change) (fact : Fact) (refused : Option StoreFailure) (stored : Bool)
  | rebuilt (stopped : Option StoreFailure)
  | signalled (s : Signal) (lost : Option SignalFailure)
deriving DecidableEq, Repr

namespace Deed

/-- What a commit reports after this deed. -/
def failure? : Deed → Option Failure
  | wrote _ _ refused _ => refused.map .store
  | rebuilt stopped => stopped.map fun cause => .stale (.store cause)
  | signalled _ _ => none

def rebuilt? : Deed → Option Bool
  | wrote .. => none
  | rebuilt stopped => some stopped.isNone
  | signalled .. => none

/-- Whether the index is as good as the store after a deed that bears on it: a rebuild makes it so
unless it is stopped, and a deletion that is refused although it took effect ends it, because no
rebuild follows. -/
def fresh? : Deed → Option Bool
  | wrote .delete _ (some _) false => some false
  -- An accepted write is followed by a rebuild; a refused insertion is taken to change nothing.
  | wrote .. => none
  | rebuilt stopped => some stopped.isNone
  | signalled .. => none

def isWrite : Deed → Bool
  | wrote .. => true
  | rebuilt _ => false
  | signalled .. => false

/-- What a deed that writes the fact says about it. -/
def storedOf? (fact : Fact) : Deed → Option Bool
  | wrote _ about _ stored => if about = fact then some stored else none
  | rebuilt _ => none
  | signalled .. => none

theorem filterMap_storedOf?_filter (fact : Fact) (done : List Deed) :
    (done.filter isWrite).filterMap (storedOf? fact) = done.filterMap (storedOf? fact) := by
  rw [List.filterMap_filter]
  congr
  funext deed
  cases deed <;> rfl

theorem filterMap_storedOf?_map {α : Type} {make : α → Deed} {items : List α} {fact : Fact}
    (silent : ∀ a ∈ items, (make a).storedOf? fact = none) :
    (items.map make).filterMap (storedOf? fact) = [] := by
  rw [List.filterMap_map, List.filterMap_eq_nil_iff]
  exact silent

end Deed

namespace Fleet

def refusal {ε α : Type} : Except ε α → Option ε
  | .ok _ => none
  | .error cause => some cause

theorem refusal_eq_some_iff {ε α : Type} {answer : Except ε α} {cause : ε} :
    refusal answer = some cause ↔ answer = .error cause := by
  cases answer <;> simp [refusal]

/-- What an action is for the deeds. A query counts only when it stops its rebuild, the swap of the
index when it completes one. -/
def deed? (after : Fleet) : (a : Action) → a.Answer → Option Deed
  | .write change fact, answer =>
    some (.wrote change fact (refusal answer) (after.relations.stores fact))
  | .query _, .error cause => some (.rebuilt (some cause))
  | .swapIndex _, _ => some (.rebuilt none)
  | .publish s, answer => some (.signalled s (refusal answer))
  | _, _ => none

/-- What a call of replica `k` does when it is played through, in order. -/
def deeds {α : Type} (k : Nat) : Call α → Fleet → List Deed
  | .done _, _ => []
  | .act a next, f =>
    (deed? (handler k a f).2 a (handler k a f).1).toList ++
      deeds k (next (handler k a f).1) (handler k a f).2

variable {α β : Type} {k : Nat} {f : Fleet}

@[simp] theorem deeds_done (value : α) : deeds k (.done value) f = [] := rfl

@[simp] theorem deeds_act (a : Action) (next : a.Answer → Call α) :
    deeds k (.act a next) f = (deed? (handler k a f).2 a (handler k a f).1).toList ++
      deeds k (next (handler k a f).1) (handler k a f).2 := rfl

@[simp] theorem deeds_bind (call : Call α) (next : α → Call β) :
    deeds k (call >>= next) f = deeds k call f ++
      deeds k (next (call.run (handler k) f).1) (call.run (handler k) f).2 := by
  induction call generalizing f with
  | done value => rfl
  | act a rest ih => simp only [Call.act_bind, deeds_act, ih, List.append_assoc, Call.run_act]

theorem stores_write_of_ne {change : Change} {about fact : Fact} (other : fact ≠ about)
    (f : Fleet) : (f.write change about).2.relations.stores fact = f.relations.stores fact := by
  rcases relations_of_write change about f with same | written
  · rw [same]
  · rw [written, Bool.eq_iff_iff, Relations.stores_iff, Relations.stores_iff,
      Relations.holds_write_of_ne other]

/-- A write says what becomes of its fact, and no action changes anything about other facts. -/
private theorem stores_handler (a : Action) (fact : Fact) (f : Fleet) :
    (handler k a f).2.relations.stores fact =
      ((deed? (handler k a f).2 a (handler k a f).1).bind (Deed.storedOf? fact)).getD
        (f.relations.stores fact) := by
  by_cases writes : ∃ change about, a = .write change about
  · obtain ⟨change, about, rfl⟩ := writes
    by_cases same : about = fact
    -- The deed of a write is made from the content that it leaves.
    · simp [deed?, Deed.storedOf?, same]
    · simp only [deed?, Option.bind_some, Deed.storedOf?, if_neg same, Option.getD_none]
      exact stores_write_of_ne (Ne.symm same) f
  · simp only [not_exists] at writes
    rw [handler_relations (k := k) f writes]
    cases a with
    | write change about => exact absurd rfl (writes change about)
    | query pattern => cases answer : (handler k (.query pattern) f).1 <;> rfl
    | _ => rfl

/-- The content after a call is the content before it, but for the facts that the call wrote: of
those its last write says whether they are stored. -/
theorem stores_run (call : Call α) (fact : Fact) (f : Fleet) :
    (call.run (handler k) f).2.relations.stores fact =
      ((deeds k call f).filterMap (Deed.storedOf? fact)).getLast?.getD
        (f.relations.stores fact) := by
  induction call generalizing f with
  | done value => rfl
  | act a next ih =>
    -- The last word is one of the rest of the call, or else that of this action.
    rw [Call.run_act, ih, stores_handler, deeds_act, List.filterMap_append, List.getLast?_append]
    cases done : deed? (handler k a f).2 a (handler k a f).1 with
    | none => simp
    | some deed => cases said : deed.storedOf? fact <;> simp [said]

end Fleet

end Entitlement
