import Entitlement.Proofs.Frame

/-!
# One action

What the store, the index and the members of a fleet are after one action of a replica, and when a
fault can have struck it.
-/

namespace Entitlement

theorem Occasion.point_ofWrite_insert (fact : Fact) : (ofWrite .insert fact).point = .insert := by
  cases fact <;> rfl

namespace Relations

theorem holds_write_self {change : Change} {fact : Fact} {r : Relations} :
    (r.write change fact).Holds fact ↔ change = .insert := by
  cases change with
  | insert => simp [write, holds_insert]
  | delete => simp [write, holds_delete]

theorem holds_write_of_ne {change : Change} {fact other : Fact} {r : Relations}
    (apart : other ≠ fact) : (r.write change fact).Holds other ↔ r.Holds other := by
  cases change with
  | insert => simp [write, holds_insert, apart]
  | delete => simp [write, holds_delete, apart]

/-- A write of the one relation leaves the other alone. -/
theorem assignments_write_of_ne {change : Change} {fact : Fact} {r : Relations}
    (other : fact.relation ≠ "assignment") :
    (r.write change fact).assignments = r.assignments := by
  cases fact with
  | grant g => cases change <;> rfl
  | assignment a => exact absurd rfl other

theorem grants_write_of_ne {change : Change} {fact : Fact} {r : Relations}
    (other : fact.relation ≠ "grant") : (r.write change fact).grants = r.grants := by
  cases fact with
  | grant g => exact absurd rfl other
  | assignment a => cases change <;> rfl

end Relations

namespace Fleet

variable {k : Nat} {f g : Fleet}

/-- Replica `k` is there, and the store answers queries with its content. -/
structure Serves (f : Fleet) (k : Nat) : Prop where
  honest : f.rigged = none
  present : (f.member? k).isSome

theorem Serves.of_framed (serves : f.Serves k) (framed : Framed k f g) : g.Serves k where
  honest := framed.rigged.trans serves.honest
  present := by
    have same := congrArg Option.isSome (framed.profiles k)
    rw [Option.isSome_map, Option.isSome_map] at same
    exact same.trans serves.present

/-- A fault with this effect is armed at the point. -/
def Armed (f : Fleet) (point : Point) (effect : StoreEffect) : Prop :=
  ∃ fault ∈ f.storeFaults, fault.trigger.point = point ∧ fault.effect = effect

theorem Armed.of_framed {point : Point} {effect : StoreEffect} (armed : g.Armed point effect)
    (framed : Framed k f g) : f.Armed point effect := by
  obtain ⟨left, member, atPoint, same⟩ := armed
  obtain ⟨fault, inFaults, trigger, effects⟩ := framed.storeFaults left member
  exact ⟨fault, inFaults, trigger ▸ atPoint, effects.trans same⟩

theorem armed_of_strikeStore {call : Occasion} {effect : StoreEffect}
    (struck : f.strikeStore call = (some effect, g)) : f.Armed call.point effect := by
  have effective : (f.strikeStore call).1 = some effect := by rw [struck]
  obtain ⟨fault, member, fits, same⟩ := Fault.exists_of_strike (Prod.ext effective rfl)
  simp only [Occasion.fits, Bool.and_eq_true, beq_iff_eq] at fits
  exact ⟨fault, member, fits.1.1.1.1.1.1, same⟩

/-! ### One action -/

/-- A write takes effect, or a fault refuses it; the fault decides whether it takes effect then. -/
theorem write_cases (change : Change) (fact : Fact) (f : Fleet) :
    ((f.write change fact).1 = .ok () ∧
      (f.write change fact).2.relations = f.relations.write change fact) ∨
    ∃ effect, f.Armed (Occasion.ofWrite change fact).point effect ∧
      (f.write change fact).1 = .error effect.failure ∧
      (f.write change fact).2.relations =
        if effect.persists then f.relations.write change fact else f.relations := by
  have kept := (keeps_strikeStore (.ofWrite change fact) f).relations
  unfold write
  split
  next met =>
    rw [met] at kept
    left
    exact ⟨rfl, congrArg (Relations.write change fact) kept⟩
  next effect g met =>
    rw [met] at kept
    right
    refine ⟨effect, armed_of_strikeStore met, rfl, ?_⟩
    simp only [enter]
    rw [show g.relations = f.relations from kept]

theorem relations_of_write (change : Change) (fact : Fact) (f : Fleet) :
    (f.write change fact).2.relations = f.relations ∨
      (f.write change fact).2.relations = f.relations.write change fact := by
  rcases write_cases change fact f with ⟨-, same⟩ | ⟨effect, -, -, same⟩
  · exact .inr same
  · split at same
    · exact .inr same
    · exact .inl same

theorem query_relations (pattern : FactPattern) (f : Fleet) :
    (f.query pattern).2.relations = f.relations := (keeps_query pattern f).relations

theorem query_members (pattern : FactPattern) (f : Fleet) :
    (f.query pattern).2.members = f.members := (keeps_query pattern f).members

theorem query_cases (honest : f.rigged = none) (pattern : FactPattern) :
    (f.query pattern).1 = .ok (f.relations.query pattern) ∨
    ∃ effect, f.Armed .query effect ∧ (f.query pattern).1 = .error effect.failure := by
  have kept := (keeps_strikeStore (.ofQuery pattern) f).relations
  have rigged : (f.strikeStore (.ofQuery pattern)).2.rigged = none := honest
  unfold query
  split
  next effect g met =>
    right
    exact ⟨effect, armed_of_strikeStore met, rfl⟩
  next g met =>
    rw [met] at kept rigged
    left
    simp only at kept rigged ⊢
    rw [rigged, kept]

theorem indexOf_congr (members : g.members = f.members) : g.indexOf k = f.indexOf k := by
  simp only [indexOf, member?, members]

@[simp] theorem note_relations (t : Trace) (f : Fleet) : (f.note t).relations = f.relations := rfl

@[simp] theorem indexOf_note (t : Trace) (f : Fleet) : (f.note t).indexOf k = f.indexOf k := rfl

@[simp] theorem swapIndex_relations (index : Index) (f : Fleet) :
    (f.swapIndex k index).relations = f.relations := rfl

theorem indexOf_swapIndex (present : (f.member? k).isSome) (index : Index) :
    (f.swapIndex k index).indexOf k = index := by
  obtain ⟨m, found⟩ := Option.isSome_iff_exists.mp present
  simp [indexOf, member?_swapIndex, found]

theorem handler_relations {a : Action} (f : Fleet)
    (noWrite : ∀ change fact, a ≠ .write change fact) :
    (handler k a f).2.relations = f.relations := by
  by_cases swaps : ∃ index, a = .swapIndex index
  -- A swap changes an index only.
  · obtain ⟨index, rfl⟩ := swaps
    rfl
  · exact (keeps_handler f noWrite fun index same => swaps ⟨index, same⟩).relations

end Fleet

end Entitlement
