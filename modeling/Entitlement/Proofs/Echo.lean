import Entitlement.Listener
import Entitlement.Proofs.WrittenForm
import Entitlement.Replica

/-!
# Whose signal it is

A watching replica passes over its own signals, so it must never take another one, or a text that is
no signal at all, for its own. A payload has a known origin just if the whole of it is a signal that
names this origin; whatever else arrives makes the replica rebuild its index.
-/

namespace Entitlement

/-- The text is one object whose only member of the name `origin` is that string, or an array of
that string alone. The object may have other members, as long as their keys have a text. -/
inductive Names (text origin : String) : Prop
  | object {members : List (Option String × Json)}
      (spelled : (Json.object members).Spelled text.toList)
      (keyed : ∀ m ∈ members, m.1.isSome = true)
      (only : members.filter (fun m => m.1 == some "origin") =
        [(some "origin", Json.text origin)]) : Names text origin
  | array (spelled : (Json.array [Json.text origin]).Spelled text.toList) : Names text origin

namespace Json

theorem required?_eq_some_iff {field : Option Json} {s : String} :
    required? field = some s ↔ field = some (text s) := by
  match field with
  | some (.string t) => simp [required?, text?, text]
  | none | some .null | some (.bool _) | some (.number _) | some (.array _) | some (.object _) =>
    simp [required?, text?, text]

/-- A key has this value just if it occurs once, with this value. -/
theorem only?_eq_some_iff {key : String} {members : List (Option String × Json)} {value : Json} :
    only? key members = some (some value) ↔
      members.filter (fun m => m.1 == some key) = [(some key, value)] := by
  have named : ∀ m ∈ members.filter (fun m => m.1 == some key), m.1 = some key :=
    fun m member => by simpa using (List.mem_filter.mp member).2
  unfold only?
  generalize members.filter (fun m => m.1 == some key) = found at named ⊢
  match found with
  | [] => simp
  | [(k, v)] =>
    have same : k = some key := named _ List.mem_cons_self
    simp [same]
  | _ :: _ :: _ => simp

/-- A record of one field is an object with this member, or an array of one item. -/
theorem fields?_eq_some_iff {j : Json} {key : String} {value : Json} :
    j.fields? [key] 1 = some [some value] ↔
      (∃ members, j = .object members ∧ (∀ m ∈ members, m.1.isSome = true) ∧
        members.filter (fun m => m.1 == some key) = [(some key, value)]) ∨
      j = .array [value] := by
  cases j with
  | object members =>
    have one : ([key].mapM fun name => only? name members) = some [some value] ↔
        only? key members = some (some value) := by
      simp [Option.bind_eq_some_iff]
    simp only [fields?, object.injEq, exists_eq_left', reduceCtorEq, or_false, List.all_eq_true,
      ← only?_eq_some_iff]
    split
    · next keyed => rw [one, and_iff_right keyed]
    · next unkeyed => exact iff_of_false (by simp) fun both => unkeyed both.1
  | array items =>
    rcases items with _ | ⟨item, _ | ⟨next, rest⟩⟩ <;> simp [fields?]
  | null | bool | number | string => simp [fields?]

end Json

namespace Wire

theorem faithful_signal (s : Signal) : Faithful s where
  proper := Json.proper_record (by simp [Json.proper_text])
  back := by simp [toJson, ofJson?, Json.fields?_record]

theorem ofJson?_signal_iff {j : Json} {s : Signal} :
    ofJson? j = some s ↔ j.fields? ["origin"] 1 = some [some (Json.text s.origin)] := by
  simp only [ofJson?, Option.bind_eq_bind, Option.bind_eq_some_iff]
  constructor
  · rintro ⟨fields, found, read⟩
    split at read
    · simp only [Option.bind_eq_some_iff, Json.required?_eq_some_iff] at read
      obtain ⟨origin, rfl, same⟩ := read
      cases same
      exact found
    · cases read
  · exact fun found => ⟨_, found, by simp⟩

theorem decode_signal_iff {text : String} {s : Signal} :
    decode text = some s ↔ Names text s.origin := by
  simp only [decode, Option.bind_eq_bind, Option.bind_eq_some_iff, Json.parse?_eq_some_iff,
    ofJson?_signal_iff, Json.fields?_eq_some_iff]
  constructor
  · rintro ⟨j, spelled, ⟨members, rfl, keyed, only⟩ | rfl⟩
    · exact .object spelled keyed only
    · exact .array spelled
  · rintro (⟨spelled, keyed, only⟩ | spelled)
    · exact ⟨_, spelled, .inl ⟨_, rfl, keyed, only⟩⟩
    · exact ⟨_, spelled, .inr rfl⟩

end Wire

/-- Only what can be read as a signal has a known origin. -/
theorem Signal.decode_eq_iff {payload origin : String} (known : origin ≠ "") :
    decode payload = ⟨origin⟩ ↔ Names payload origin := by
  have read_iff : Wire.decode payload = some (⟨origin⟩ : Signal) ↔ Names payload origin :=
    Wire.decode_signal_iff
  rw [← read_iff, decode]
  cases (Wire.decode payload : Option Signal) with
  | some s => simp
  | none => simpa using known.symm

namespace Replica

theorem exists_rebuild_eq (id : String) : ∃ next, (rebuild id).run = .act .acquireLock next :=
  ⟨_, rfl⟩

/-! ### Main result -/

/-- A signal is read back as it was written, whatever its origin. A payload has a known origin just
if it names it, and any other payload an unknown one. So a replica passes over a payload just if it
names this replica, and rebuilds its index for every other one. -/
theorem passes_over_named :
    (∀ origin, Signal.decode (Signal.encode ⟨origin⟩) = ⟨origin⟩) ∧
    (∀ payload origin, origin ≠ "" → (Signal.decode payload = ⟨origin⟩ ↔ Names payload origin)) ∧
    (∀ payload, (∀ origin, origin ≠ "" → ¬ Names payload origin) →
      Signal.decode payload = ⟨""⟩) ∧
    ∀ id payload s, id ≠ "" → (Finding.notified payload).signal? = some s →
      (follow id s = return ↔ Names payload id) ∧
      (¬ Names payload id → follow id s = do let _ ← (rebuild id).run) := by
  refine ⟨fun origin => ?_, fun payload origin known => ?_, fun payload unnamed => ?_, ?_⟩
  · rw [Signal.decode, Signal.encode, (Wire.faithful_signal ⟨origin⟩).decode_eq]
    rfl
  · exact Signal.decode_eq_iff known
  · refine Decidable.byContradiction fun other => ?_
    have known : (Signal.decode payload).origin ≠ "" := fun same => other (congrArg Signal.mk same)
    exact unnamed _ known ((Signal.decode_eq_iff known).mp rfl)
  · intro id payload s known heard
    obtain rfl : Signal.decode payload = s := Option.some.inj heard
    have own_iff : (Signal.decode payload).origin = id ↔ Names payload id := by
      rw [← Signal.decode_eq_iff known]
      exact ⟨congrArg Signal.mk, congrArg Signal.origin⟩
    rw [← own_iff, follow]
    split
    · next own => exact ⟨by simp [own], fun other => absurd own other⟩
    · next other =>
      obtain ⟨next, begins⟩ := exists_rebuild_eq id
      refine ⟨iff_of_false ?_ other, fun _ => rfl⟩
      rw [begins]
      exact nofun

/-- A signal of another spelling than the one that it would be written in. -/
def respelled : String := "\x7b\"more\": [1e999], \"\\u006frigin\": \"a\" \x7d"

theorem passes_over_named_respelled :
    Names respelled "a" ∧ follow "a" (Signal.decode respelled) = return ∧
      follow "b" (Signal.decode respelled) = (do let _ ← (rebuild "b").run) := by
  obtain ⟨-, decode_iff, -, follows⟩ := passes_over_named
  have decoded : Signal.decode respelled = ⟨"a"⟩ := by decide +kernel
  have named : Names respelled "a" := (decode_iff respelled "a" (by decide)).mp decoded
  have unnamed : ¬ Names respelled "b" := fun other => by
    have same := (decode_iff respelled "b" (by decide)).mpr other
    rw [decoded] at same
    revert same
    decide
  have own := follows "a" respelled (Signal.decode respelled) (by decide) rfl
  have foreign := follows "b" respelled (Signal.decode respelled) (by decide) rfl
  exact ⟨named, own.1.mpr named, foreign.2 unnamed⟩

end Replica

end Entitlement
