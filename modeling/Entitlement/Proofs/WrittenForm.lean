import Entitlement.Proofs.JsonText
import Entitlement.Wire

/-!
# Written forms are read back

Every value that leaves the program as JSON is what its text is read as. Each of its fields is
written once, so a reader finds every field, and the kind in front of a fact or a pattern is taken
off again. Counts are read up to the largest number of sixty-four bits.
-/

namespace Entitlement

namespace Json

/-- What is written item by item is read item by item. -/
theorem mapM_map_eq {α β γ : Type} {f : α → β} {g : β → Option γ} {h : α → γ} {l : List α}
    (each : ∀ a ∈ l, g (f a) = some (h a)) : (l.map f).mapM g = some (l.map h) := by
  induction l with
  | nil => rfl
  | cons a rest ih =>
    have others := ih fun b member => each b (List.mem_cons_of_mem _ member)
    simp [each a List.mem_cons_self, others]

/-! ### Records -/

variable {members : List (String × Json)}

theorem proper_record (each : ∀ m ∈ members, m.2.Proper) : (record members).Proper := by
  refine .object ?_ ?_ <;> intro m member <;> obtain ⟨n, inMembers, rfl⟩ := List.mem_map.mp member
  · rfl
  · exact each n inMembers

theorem proper_text (s : String) : (text s).Proper := .string s

theorem proper_nat (n : Nat) : (nat n).Proper := .number (Numeral.proper_ofNat n)

theorem proper_orNull (s : Option String) : (orNull text s).Proper := by
  cases s with
  | none => exact .null
  | some s => exact .string s

theorem proper_texts (l : List String) : (texts l).Proper := by
  refine .array fun item member => ?_
  obtain ⟨s, -, rfl⟩ := List.mem_map.mp member
  exact .string s

/-- A key that occurs once has its value. -/
theorem only?_of_mem (distinct : (members.map Prod.fst).Nodup) {m : String × Json}
    (member : m ∈ members) :
    only? m.1 (members.map fun (key, value) => (some key, value)) = some (some m.2) := by
  have alone : (members.map fun (key, value) => (some key, value)).filter
      (fun n => n.1 == some m.1) = [(some m.1, m.2)] := by
    induction members with
    | nil => cases member
    | cons first others ih =>
      rw [List.map_cons, List.nodup_cons] at distinct
      obtain ⟨absent, distinct⟩ := distinct
      rcases List.mem_cons.mp member with rfl | later
      · have none : (others.map fun (key, value) => (some key, value)).filter
            (fun n => n.1 == some m.1) = [] := by
          simp only [List.filter_eq_nil_iff, List.mem_map]
          rintro _ ⟨n, inOthers, rfl⟩ same
          have same : n.1 = m.1 := by simpa using same
          exact absent (same ▸ List.mem_map_of_mem inOthers)
        simp [none]
      · have other : ¬ first.1 = m.1 := by
          intro same
          exact absent (same ▸ List.mem_map_of_mem later)
        simpa [other] using ih distinct later
  rw [only?, alone]

/-- The fields of a record are what it was made of. -/
theorem fields?_record {names : List String} (named : members.map Prod.fst = names)
    (distinct : names.Nodup) (least : Nat) :
    (record members).fields? names least = some (members.map fun m => some m.2) := by
  subst named
  have keyed : (members.map fun (key, value) => (some key, value)).all (·.1.isSome) = true := by
    simp
  rw [record, fields?, if_pos keyed]
  exact mapM_map_eq fun m member => only?_of_mem distinct member

@[simp] theorem required?_text (s : String) : required? (some (text s)) = some s := rfl

@[simp] theorem optional?_orNull (s : Option String) :
    optional? (some (orNull text s)) = some s := by
  cases s <;> rfl

theorem count?_nat {n : Nat} (fits : n ≤ maxCount) : count? (nat n) = some n :=
  Numeral.count?_ofNat fits

/-! ### Records with a kind -/

theorem withKind_record (kind : String) (members : List (String × Json)) :
    (record members).withKind kind = record (("kind", text kind) :: members) := rfl

theorem Proper.withKind {j : Json} (proper : j.Proper) (kind : String) :
    (j.withKind kind).Proper := by
  cases proper with
  | object keys each =>
    refine .object ?_ ?_ <;> intro m member <;> rcases List.mem_cons.mp member with rfl | later
    · rfl
    · exact keys m later
    · exact proper_text kind
    · exact each m later
  | null => exact .null
  | bool b => exact .bool b
  | number proper => exact .number proper
  | string text => exact .string text
  | array each => exact .array each

theorem allMembersSound_map {levels : Nat} (each : ∀ m ∈ members, m.2.soundWithin levels = true) :
    allMembersSound levels (members.map fun (key, value) => (some key, value)) = true := by
  induction members with
  | nil => rfl
  | cons m rest ih =>
    have others := ih fun n member => each n (List.mem_cons_of_mem _ member)
    simp [allMembersSound, each m List.mem_cons_self, others]

/-- The kind can be taken off again, unless a value within is nested too deep. -/
theorem tagged?_withKind (kind : String) (free : "kind" ∉ members.map Prod.fst)
    (each : ∀ m ∈ members, m.2.soundWithin (maxDepth - 1) = true) :
    ((record members).withKind kind).tagged? = some (kind, record members) := by
  have sound : (record (("kind", text kind) :: members)).isSound = true := by
    have inner := allMembersSound_map each
    simp [record, isSound, maxDepth, soundWithin, allMembersSound, text] at inner ⊢
    exact inner
  rw [withKind_record]
  unfold tagged?
  rw [if_pos sound]
  simp only [record, List.map_cons]
  generalize keyed : (members.map fun (key, value) => (some key, value)) = fields
  have plain : ∀ m ∈ fields, m.1 ≠ some "kind" := by
    rw [← keyed]
    rintro _ member same
    obtain ⟨m, inMembers, rfl⟩ := List.mem_map.mp member
    have same : m.1 = "kind" := by simpa using same
    exact free (same ▸ List.mem_map_of_mem inMembers)
  have others : fields.filter (fun m => m.1 == some "kind") = [] := by
    simpa [List.filter_eq_nil_iff] using plain
  have kept : fields.filter (fun m => m.1 != some "kind") = fields := by
    simpa [List.filter_eq_self] using plain
  simp [only?, others, kept, text, text?]

end Json

namespace Wire

variable {α : Type} [Wire α]

/-- The value is written as proper JSON, which is read as this value. -/
structure Faithful (value : α) : Prop where
  proper : (toJson value).Proper
  back : ofJson? (toJson value) = some value

theorem Faithful.decode_eq {value : α} (faithful : Faithful value) :
    decode (encode value) = some value := by
  rw [decode, encode, Json.parse?_render faithful.proper, Option.bind_eq_bind, Option.bind_some,
    faithful.back]

/-! ### Each type -/

theorem faithful_grant (g : Grant) : Faithful g where
  proper := Json.proper_record (by simp [Json.proper_text])
  back := by simp [toJson, ofJson?, Json.fields?_record]

theorem faithful_assignment (a : Assignment) : Faithful a where
  proper := Json.proper_record (by simp [Json.proper_text])
  back := by simp [toJson, ofJson?, Json.fields?_record]

theorem faithful_grantPattern (p : GrantPattern) : Faithful p where
  proper := Json.proper_record (by simp [Json.proper_orNull])
  back := by simp [toJson, ofJson?, Json.fields?_record]

theorem faithful_assignmentPattern (p : AssignmentPattern) : Faithful p where
  proper := Json.proper_record (by simp [Json.proper_orNull])
  back := by simp [toJson, ofJson?, Json.fields?_record]

theorem faithful_namespace (n : Namespace) : Faithful n where
  proper := Json.proper_record (by simp [Json.proper_text])
  back := by
    simp [toJson, ofJson?, Json.fields?_record]
    rfl

theorem faithful_window {w : Window} (offset : w.offset ≤ Json.maxCount)
    (limit : w.limit ≤ Json.maxCount) : Faithful w where
  proper := Json.proper_record (by simp [Json.proper_nat])
  back := by
    simp [toJson, ofJson?, Json.fields?_record, Json.count?_nat offset, Json.count?_nat limit]

theorem faithful_namespacePermissions (n : NamespacePermissions) : Faithful n where
  proper := Json.proper_record (by simp [Json.proper_text, Json.proper_texts])
  back := by
    have listed : (n.permissions.map Json.text).mapM Json.text? = some (n.permissions.map id) :=
      Json.mapM_map_eq fun s _ => rfl
    rw [List.map_id] at listed
    simp [toJson, ofJson?, Json.fields?_record, Json.texts, Json.elements?, listed]

theorem faithful_page {p : Page α} (items : ∀ item ∈ p.items, Faithful item)
    (total : p.total ≤ Json.maxCount) : Faithful p where
  proper := by
    have listed : (Json.array (p.items.map toJson)).Proper := by
      refine .array fun j member => ?_
      obtain ⟨item, inItems, rfl⟩ := List.mem_map.mp member
      exact (items item inItems).proper
    exact Json.proper_record (by simp [listed, Json.proper_nat])
  back := by
    have listed : (p.items.map toJson).mapM (ofJson? : Json → Option α) =
        some (p.items.map id) :=
      Json.mapM_map_eq fun item member => (items item member).back
    rw [List.map_id] at listed
    simp [toJson, ofJson?, Json.fields?_record, Json.elements?, listed, Json.count?_nat total]

theorem faithful_fact (fact : Fact) : Faithful fact := by
  cases fact with
  | grant g =>
    refine ⟨(faithful_grant g).proper.withKind "grant", ?_⟩
    have tagged : (toJson (Fact.grant g)).tagged? = some ("grant", toJson g) :=
      Json.tagged?_withKind "grant" (by simp) (by simp [Json.text, Json.soundWithin])
    change (toJson (Fact.grant g)).tagged? >>= _ = _
    rw [tagged]
    exact congrArg (Option.map Fact.grant) (faithful_grant g).back
  | assignment a =>
    refine ⟨(faithful_assignment a).proper.withKind "assignment", ?_⟩
    have tagged : (toJson (Fact.assignment a)).tagged? = some ("assignment", toJson a) :=
      Json.tagged?_withKind "assignment" (by simp) (by simp [Json.text, Json.soundWithin])
    change (toJson (Fact.assignment a)).tagged? >>= _ = _
    rw [tagged]
    exact congrArg (Option.map Fact.assignment) (faithful_assignment a).back

theorem faithful_factPattern (pattern : FactPattern) : Faithful pattern := by
  have shallow (s : Option String) :
      (Json.orNull Json.text s).soundWithin (Json.maxDepth - 1) = true := by
    cases s <;> rfl
  cases pattern with
  | grants p =>
    refine ⟨(faithful_grantPattern p).proper.withKind "grant", ?_⟩
    have tagged : (toJson (FactPattern.grants p)).tagged? = some ("grant", toJson p) :=
      Json.tagged?_withKind "grant" (by simp) (by simp [shallow])
    change (toJson (FactPattern.grants p)).tagged? >>= _ = _
    rw [tagged]
    exact congrArg (Option.map FactPattern.grants) (faithful_grantPattern p).back
  | assignments p =>
    refine ⟨(faithful_assignmentPattern p).proper.withKind "assignment", ?_⟩
    have tagged : (toJson (FactPattern.assignments p)).tagged? = some ("assignment", toJson p) :=
      Json.tagged?_withKind "assignment" (by simp) (by simp [shallow])
    change (toJson (FactPattern.assignments p)).tagged? >>= _ = _
    rw [tagged]
    exact congrArg (Option.map FactPattern.assignments) (faithful_assignmentPattern p).back

/-! ### Main result -/

/-- The values that fit are read back from their texts, and no two of them have the same text. -/
structure Lossless (α : Type) [Wire α] (fits : α → Prop) : Prop where
  back : ∀ value : α, fits value → decode (encode value) = some value
  apart : ∀ one other : α, fits one → fits other → encode one = encode other → one = other

theorem Lossless.of_faithful {fits : α → Prop}
    (faithful : ∀ value, fits value → Faithful value) : Lossless α fits where
  back value fit := (faithful value fit).decode_eq
  apart one other oneFits otherFits same := by
    have read := (faithful one oneFits).decode_eq
    rw [same, (faithful other otherFits).decode_eq] at read
    exact (Option.some.inj read).symm

/-- Texts are arbitrary, and counts have sixty-four bits. In particular a grant is never written as
an assignment is, nor a pattern of the one relation as one of the other. -/
theorem lossless :
    Lossless Grant (fun _ => True) ∧ Lossless Assignment (fun _ => True) ∧
    Lossless Fact (fun _ => True) ∧ Lossless GrantPattern (fun _ => True) ∧
    Lossless AssignmentPattern (fun _ => True) ∧ Lossless FactPattern (fun _ => True) ∧
    Lossless Namespace (fun _ => True) ∧
    Lossless Window (fun w => w.offset ≤ Json.maxCount ∧ w.limit ≤ Json.maxCount) ∧
    Lossless NamespacePermissions (fun _ => True) ∧
    Lossless (Page NamespacePermissions) (fun p => p.total ≤ Json.maxCount) ∧
    (∀ g a, encode (Fact.grant g) ≠ encode (Fact.assignment a)) ∧
    (∀ p q, encode (FactPattern.grants p) ≠ encode (FactPattern.assignments q)) := by
  have facts : Lossless Fact (fun _ => True) := .of_faithful fun fact _ => faithful_fact fact
  have patterns : Lossless FactPattern (fun _ => True) :=
    .of_faithful fun pattern _ => faithful_factPattern pattern
  refine ⟨?_, ?_, facts, ?_, ?_, patterns, ?_, ?_, ?_, ?_, ?_, ?_⟩
  · exact .of_faithful fun g _ => faithful_grant g
  · exact .of_faithful fun a _ => faithful_assignment a
  · exact .of_faithful fun p _ => faithful_grantPattern p
  · exact .of_faithful fun p _ => faithful_assignmentPattern p
  · exact .of_faithful fun n _ => faithful_namespace n
  · exact .of_faithful fun w fits => faithful_window fits.1 fits.2
  · exact .of_faithful fun n _ => faithful_namespacePermissions n
  · exact .of_faithful fun p total =>
      faithful_page (fun item _ => faithful_namespacePermissions item) total
  · intro g a same
    cases facts.apart _ _ trivial trivial same
  · intro p q same
    cases patterns.apart _ _ trivial trivial same

/-- A page with the largest total, and a name that has to be escaped. -/
def awkward : Page NamespacePermissions :=
  ⟨[⟨"a\"b\\\n\x01é😀", ["doc#read", ""]⟩, ⟨"", []⟩], Json.maxCount⟩

theorem lossless_awkward : decode (encode awkward) = some awkward :=
  lossless.2.2.2.2.2.2.2.2.2.1.back awkward (Nat.le_refl _)

end Wire

end Entitlement
