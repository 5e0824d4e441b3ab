import Entitlement.Proofs.Frame

/-!
# What a call notes

The notes of a call are the events that it enters in the record while it is played through, in their
order. Nothing else that a call does touches the record, so the events of the record afterwards are
those from before and then the notes.
-/

namespace Entitlement

/-- The event that the action enters in the record. -/
def Action.event? : Action → Option Event
  | .note (.event e) => some e
  | _ => none

/-! ### Calls that note certain events only -/

namespace Call

variable {α β : Type} {allowed : Event → Prop}

/-- Whatever the call is answered, it notes allowed events only. -/
def Notes (allowed : Event → Prop) : Call α → Prop
  | done _ => True
  | act a next => (∀ e, a.event? = some e → allowed e) ∧ ∀ answer, (next answer).Notes allowed

theorem Notes.bind {first : Call α} {next : α → Call β} (one : first.Notes allowed)
    (two : ∀ value, (next value).Notes allowed) : (first >>= next).Notes allowed := by
  induction first with
  | done value => exact two value
  | act a rest ih => exact ⟨one.1, fun answer => ih answer (one.2 answer)⟩

/-- An action that is no event may stand anywhere. -/
theorem Notes.step {a : Action} {next : a.Answer → Call α} (mute : a.event? = none)
    (rest : ∀ answer, (next answer).Notes allowed) : (act a next).Notes allowed :=
  ⟨fun e found => by simp [mute] at found, rest⟩

theorem Notes.event {e : Event} {next : Unit → Call α} (allows : allowed e)
    (rest : (next ()).Notes allowed) : (act (.note (.event e)) next).Notes allowed :=
  ⟨fun _ found => Option.some.inj found ▸ allows, fun _ => rest⟩

end Call

/-! ### The notes of a call -/

namespace Fleet

variable {α β : Type} {k : Nat} {f : Fleet}

/-- The events that a call of replica `k` notes when it is played through, in order. -/
def notes {α : Type} (k : Nat) (call : Call α) (f : Fleet) : List Event :=
  (call.actions (handler k) f).filterMap (·.1.event?)

@[simp] theorem notes_done (value : α) : notes k (.done value) f = [] := rfl

@[simp] theorem notes_act (a : Action) (next : a.Answer → Call α) :
    notes k (.act a next) f =
      a.event?.toList ++ notes k (next (handler k a f).1) (handler k a f).2 := by
  cases noted : a.event? <;> simp [notes, Call.actions, noted]

@[simp] theorem notes_bind (call : Call α) (next : α → Call β) :
    notes k (call >>= next) f = notes k call f ++
      notes k (next (call.run (handler k) f).1) (call.run (handler k) f).2 := by
  simp [notes]

theorem allowed_of_notes {allowed : Event → Prop} {call : Call α} (only : call.Notes allowed)
    {e : Event} (noted : e ∈ notes k call f) : allowed e := by
  induction call generalizing f with
  | done value => cases noted
  | act a rest ih =>
    rw [notes_act, List.mem_append, Option.mem_toList] at noted
    rcases noted with first | later
    · exact only.1 e first
    · exact ih _ (only.2 _) later

theorem telemetry_strikeStore {call : Occasion} {effect : Option StoreEffect} {g : Fleet}
    (struck : f.strikeStore call = (effect, g)) : g.telemetry = f.telemetry := by
  cases struck
  rfl

theorem telemetry_strikeSignal {call : Occasion} {failure : Option SignalFailure} {g : Fleet}
    (struck : f.strikeSignal call = (failure, g)) : g.telemetry = f.telemetry := by
  cases struck
  rfl

/-- Only a note changes the record. -/
theorem telemetry_handler {a : Action} (f : Fleet) (noNote : ∀ t, a ≠ .note t) :
    (handler k a f).2.telemetry = f.telemetry := by
  cases a with
  | note t => exact absurd rfl (noNote t)
  | write change fact =>
    simp only [handler, write]
    split <;> next struck => exact (telemetry_strikeStore struck :)
  | query pattern =>
    simp only [handler, query]
    split <;> next struck => exact (telemetry_strikeStore struck :)
  | probe =>
    simp only [handler, probe]
    split <;> next struck => exact (telemetry_strikeStore struck :)
  | register record =>
    simp only [handler, register]
    split <;> next struck => exact (telemetry_strikeStore struck :)
  | listing w =>
    simp only [handler, listing]
    split <;> next struck => exact (telemetry_strikeStore struck :)
  | publish s =>
    simp only [handler, publish]
    split <;> next struck => exact (telemetry_strikeSignal struck :)
  | subscribe =>
    simp only [handler, subscribe]
    split <;> next struck => exact (telemetry_strikeSignal struck :)
  | unsubscribe | acquireLock | releaseLock | readIndex | swapIndex => rfl

theorem events_handler (a : Action) (f : Fleet) :
    (handler k a f).2.telemetry.events = f.telemetry.events ++ a.event?.toList := by
  by_cases notes : ∃ t, a = .note t
  · obtain ⟨t, rfl⟩ := notes
    cases t <;> simp [handler, note, Telemetry.events, Action.event?]
  · have mute : a.event? = none := by
      cases a with
      | note t => exact absurd ⟨t, rfl⟩ notes
      | _ => rfl
    rw [telemetry_handler f fun t same => notes ⟨t, same⟩, mute]
    simp

/-- A call adds its notes to the record. -/
theorem events_run (call : Call α) (f : Fleet) :
    (call.run (handler k) f).2.telemetry.events = f.telemetry.events ++ notes k call f := by
  induction call generalizing f with
  | done value => simp
  | act a rest ih => rw [Call.run_act, ih, events_handler, notes_act, List.append_assoc]

end Fleet

end Entitlement
