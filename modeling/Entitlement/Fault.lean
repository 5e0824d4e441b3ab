/-!
# Faults on schedule

A fault is armed with a trigger and strikes the calls that its trigger fits: it lets a number of
them pass first and then strikes a given number of times, or for good.
-/

namespace Entitlement

structure Fault (τ ε : Type) where
  trigger : τ
  -- How many fitting calls still pass.
  skip : Nat := 0
  -- How often it still strikes; without a number, for good.
  times : Option Nat := none
  effect : ε
deriving DecidableEq, Repr, Inhabited

namespace Fault

variable {τ ε : Type}

/-- Looks for the fault that strikes a call. The faults are asked in the order in which they were
armed, and each that lets the call pass is used up by one pass. -/
def strike (fits : τ → Bool) : List (Fault τ ε) → Option ε × List (Fault τ ε)
  | [] => (none, [])
  | f :: rest =>
    let (struck, others) := strike fits rest
    if fits f.trigger then
      match f.skip, f.times with
      | passes + 1, _ => (struck, { f with skip := passes } :: others)
      | 0, none => (some f.effect, f :: rest)
      | 0, some 0 => (struck, f :: others)
      | 0, some (left + 1) => (some f.effect, { f with times := some left } :: rest)
    else (struck, f :: others)

@[simp] theorem strike_nil (fits : τ → Bool) : strike fits ([] : List (Fault τ ε)) = (none, []) :=
  rfl

theorem exists_of_strike {fits : τ → Bool} {faults left : List (Fault τ ε)} {effect : ε}
    (struck : strike fits faults = (some effect, left)) :
    ∃ f ∈ faults, fits f.trigger = true ∧ f.effect = effect := by
  induction faults generalizing left with
  | nil => simp at struck
  | cons f rest ih =>
    have later {others} (found : strike fits rest = (some effect, others)) :
        ∃ g ∈ f :: rest, fits g.trigger = true ∧ g.effect = effect := by
      obtain ⟨g, member, fit⟩ := ih found
      exact ⟨g, List.mem_cons_of_mem _ member, fit⟩
    obtain ⟨found, others⟩ : _ × _ := strike fits rest
    simp only [strike] at struck
    split at struck
    · next fit =>
      split at struck <;> simp only [Prod.mk.injEq] at struck
      · exact later (Prod.ext struck.1 rfl)
      · exact ⟨f, by simp, fit, by simpa using struck.1⟩
      · exact later (Prod.ext struck.1 rfl)
      · exact ⟨f, by simp, fit, by simpa using struck.1⟩
    · simp only [Prod.mk.injEq] at struck
      exact later (Prod.ext struck.1 rfl)

end Fault

end Entitlement
