import Entitlement.Channel
import Entitlement.Event
import Entitlement.Index
import Entitlement.Namespace

/-!
# Calls

A call of the library, cut at its actions: the points at which it touches the store, the registry,
the channel, the lock, the index of its replica or the record of its work. Between two actions other
calls may run. A handler gives the actions a meaning on some state; running a call under a handler
plays it through without interruption.
-/

namespace Entitlement

/-- Everything a call does to the world around it. -/
inductive Action where
  | write (change : Change) (fact : Fact)
  | query (pattern : FactPattern)
  | probe
  | publish (s : Signal)
  | subscribe
  | unsubscribe (id : Nat)
  | register (record : Namespace)
  | listing (w : Window)
  | acquireLock
  | releaseLock
  | readIndex
  | swapIndex (i : Index)
  | note (t : Trace)
deriving DecidableEq, Repr

abbrev Action.Answer : Action → Type
  | write .. => Except StoreFailure Unit
  | query .. => Except StoreFailure (List Fact)
  | probe => Except StoreFailure Unit
  | publish .. => Except SignalFailure Unit
  | subscribe => Except SignalFailure Nat
  | unsubscribe .. => Unit
  | register .. => Except StoreFailure Namespace
  | listing .. => Except StoreFailure (Page Namespace)
  | acquireLock => Unit
  | releaseLock => Unit
  | readIndex => Index
  | swapIndex .. => Unit
  | note .. => Unit

/-- What is left of a call: its value, or its next action and how it goes on from the answer. -/
inductive Call (α : Type) : Type where
  | done (value : α)
  | act (a : Action) (next : a.Answer → Call α)

abbrev Handler (σ : Type) := (a : Action) → σ → a.Answer × σ

namespace Call

variable {α β σ : Type}

protected def bind : Call α → (α → Call β) → Call β
  | done value, next => next value
  | act a rest, next => act a fun answer => (rest answer).bind next

instance : Monad Call where
  pure := done
  bind := Call.bind

def perform (a : Action) : Call a.Answer := act a done

def run (h : Handler σ) : Call α → σ → α × σ
  | done value, s => (value, s)
  | act a next, s => (next (h a s).1).run h (h a s).2

/-- The actions of the call, with their answers, when it is played through. -/
def actions (h : Handler σ) : Call α → σ → List ((a : Action) × a.Answer)
  | done _, _ => []
  | act a next, s => ⟨a, (h a s).1⟩ :: (next (h a s).1).actions h (h a s).2

@[simp] theorem pure_eq (value : α) : (pure value : Call α) = done value := rfl

@[simp] theorem done_bind (value : α) (next : α → Call β) : done value >>= next = next value := rfl

@[simp] theorem act_bind (a : Action) (rest : a.Answer → Call α) (next : α → Call β) :
    act a rest >>= next = act a fun answer => rest answer >>= next := rfl

@[simp] theorem perform_bind (a : Action) (next : a.Answer → Call β) :
    perform a >>= next = act a next := rfl

@[simp] theorem run_done (h : Handler σ) (value : α) (s : σ) : (done value).run h s = (value, s) :=
  rfl

@[simp] theorem run_act (h : Handler σ) (a : Action) (next : a.Answer → Call α) (s : σ) :
    (act a next).run h s = (next (h a s).1).run h (h a s).2 := rfl

@[simp] theorem run_perform (h : Handler σ) (a : Action) (s : σ) : (perform a).run h s = h a s :=
  rfl

@[simp] theorem run_bind (h : Handler σ) (call : Call α) (next : α → Call β) (s : σ) :
    (call >>= next).run h s = (next (call.run h s).1).run h (call.run h s).2 := by
  induction call generalizing s with
  | done value => rfl
  | act a rest ih => exact ih _ _

@[simp] theorem actions_bind (h : Handler σ) (call : Call α) (next : α → Call β) (s : σ) :
    (call >>= next).actions h s =
      call.actions h s ++ (next (call.run h s).1).actions h (call.run h s).2 := by
  induction call generalizing s with
  | done value => rfl
  | act a rest ih => simpa [actions] using ih _ _

private theorem map_id (call : Call α) : (id <$> call) = call := by
  induction call with
  | done value => rfl
  | act a rest ih => exact congrArg (act a) (funext ih)

private theorem bind_assoc' {γ : Type} (call : Call α) (f : α → Call β) (g : β → Call γ) :
    call >>= f >>= g = call >>= fun value => f value >>= g := by
  induction call with
  | done value => rfl
  | act a rest ih => exact congrArg (act a) (funext ih)

instance : LawfulMonad Call := LawfulMonad.mk' Call map_id (fun _ _ => rfl) bind_assoc'

end Call

/-- A call that may fail; a failure ends it. -/
structure Attempt (α : Type) where
  run : Call (Except Failure α)

namespace Attempt

variable {α β σ : Type}

protected def pure (value : α) : Attempt α := ⟨.done (.ok value)⟩

protected def bind (first : Attempt α) (next : α → Attempt β) : Attempt β :=
  ⟨first.run >>= fun
    | .ok value => (next value).run
    | .error cause => .done (.error cause)⟩

instance : Monad Attempt where
  pure := Attempt.pure
  bind := Attempt.bind

def ofCall (call : Call α) : Attempt α := ⟨do return .ok (← call)⟩

def ofCheck (check : Except Failure α) : Attempt α := ⟨.done check⟩

instance : MonadLift Call Attempt := ⟨ofCall⟩

instance : MonadLift (Except Failure) Attempt := ⟨ofCheck⟩

def fail (cause : Failure) : Attempt α := ⟨.done (.error cause)⟩

/-- The outcome of an attempt, whose failure ends nothing yet. -/
def outcome (attempt : Attempt α) : Attempt (Except Failure α) := ofCall attempt.run

def ofStore (call : Call (Except StoreFailure α)) : Attempt α :=
  ⟨do return (← call).mapError .store⟩

def ofChannel (call : Call (Except SignalFailure α)) : Attempt α :=
  ⟨do return (← call).mapError .signal⟩

@[simp] theorem run_pure (value : α) : (pure value : Attempt α).run = .done (.ok value) := rfl

@[simp] theorem run_fail (cause : Failure) : (fail cause : Attempt α).run = .done (.error cause) :=
  rfl

@[simp] theorem run_ofCheck (check : Except Failure α) : (ofCheck check).run = .done check := rfl

@[simp] theorem run_liftCheck (check : Except Failure α) :
    (liftM check : Attempt α).run = .done check := rfl

@[simp] theorem run_liftCall (call : Call α) :
    (liftM call : Attempt α).run = call >>= fun value => .done (.ok value) := rfl

@[simp] theorem run_outcome (attempt : Attempt α) :
    attempt.outcome.run = attempt.run >>= fun value => .done (.ok value) := rfl

@[simp] theorem run_bind (first : Attempt α) (next : α → Attempt β) :
    (first >>= next).run = first.run >>= fun
      | .ok value => (next value).run
      | .error cause => .done (.error cause) := rfl

end Attempt

end Entitlement
