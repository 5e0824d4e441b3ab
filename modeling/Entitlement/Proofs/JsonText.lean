import Entitlement.Json.Write
import Entitlement.Proofs.Reading

/-!
# The text of a value

A value whose strings all have a text and whose numerals follow the grammar is written in one of its
spellings, and so it is read back from the text that it is written as.
-/

namespace Entitlement.Json

/-! ### Strings -/

theorem hexUnit?_controlDigits {n : Nat} (control : n < 32) :
    hexUnit? '0' '0' (if n < 16 then '0' else '1') (Nat.digitChar (n % 16)) = some n := by
  have all : ∀ n < 32, hexUnit? '0' '0' (if n < 16 then '0' else '1') (Nat.digitChar (n % 16)) =
      some n := by decide
  exact all n control

/-- A character is written with a mark of its own, by its number, or as it is. -/
theorem escaped_cases (c : Char) :
    (∃ mark, escaped c = ['\\', mark] ∧ mark ≠ 'u' ∧ shortEscape? mark = some c) ∨
    (escaped c = ['\\', 'u', '0', '0'] ++ controlDigits c ∧ c.toNat < 32) ∨
    (escaped c = [c] ∧ c ≠ '\x22' ∧ c ≠ '\\' ∧ ¬ c.toNat < 32) := by
  by_cases short : c ∈ ['\x22', '\\', '\x08', '\x0c', '\n', '\r', '\t']
  · left
    simp only [List.mem_cons, List.not_mem_nil, or_false] at short
    rcases short with rfl | rfl | rfl | rfl | rfl | rfl | rfl <;>
      exact ⟨_, rfl, by decide, by decide⟩
  · simp only [List.mem_cons, List.not_mem_nil, or_false, not_or] at short
    right
    by_cases control : c.toNat < 32
    · exact .inl ⟨by simp [escaped, short, control], control⟩
    · exact .inr ⟨by simp [escaped, short, control], short.1, short.2.1, control⟩

/-- A piece that stands for one character, whatever follows it. -/
def Piece.Means (p : Piece) (c : Char) : Prop :=
  p = .char c ∨ (p = .unit c.toNat ∧ c.toNat < 32)

theorem Piece.Means.joined {p : Piece} {c : Char} (means : p.Means c) {ps : List Piece}
    {cs : List Char} (rest : Joined ps cs) : Joined (p :: ps) (c :: cs) := by
  rcases means with rfl | ⟨rfl, control⟩
  · exact .char rest
  · have high : isHighSurrogate c.toNat = false := by simp [isHighSurrogate]; omega
    have low : isLowSurrogate c.toNat = false := by simp [isLowSurrogate]; omega
    have joined := Joined.unit high low rest
    rwa [Char.ofNat_toNat] at joined

theorem exists_piece (c : Char) : ∃ p : Piece, p.Means c ∧ p.Spelled (escaped c) := by
  rcases escaped_cases c with ⟨mark, written, -, short⟩ | ⟨written, control⟩ |
    ⟨written, notQuote, notSlash, visible⟩
  · exact ⟨.char c, .inl rfl, written ▸ .short short⟩
  · refine ⟨.unit c.toNat, .inr ⟨rfl, control⟩, ?_⟩
    rw [written]
    exact .unit (hexUnit?_controlDigits control)
  · exact ⟨.char c, .inl rfl, written ▸ .plain notQuote notSlash visible⟩

theorem exists_pieces (l : List Char) :
    ∃ ps, PiecesSpelled ps (l.flatMap escaped) ∧ Joined ps l := by
  induction l with
  | nil => exact ⟨[], .nil, .nil⟩
  | cons c others ih =>
    obtain ⟨ps, spelled, joined⟩ := ih
    obtain ⟨p, means, first⟩ := exists_piece c
    exact ⟨p :: ps, .cons first spelled, means.joined joined⟩

theorem stringSpelled_quoted (text : String) : StringSpelled (some text) (quoted text) := by
  obtain ⟨ps, spelled, joined⟩ := exists_pieces text.toList
  refine ⟨ps, _, spelled, fun s => ?_, rfl⟩
  rw [← text_eq_some_iff, text_eq_some_iff.mpr joined]

/-! ### Numerals -/

def exponentChars (exponent : Option (Bool × List Char)) : List Char :=
  match exponent with
  | none => []
  | some (negative, digits) => 'e' :: (if negative then '-' else '+') :: digits

theorem exponentSpelled_chars (exponent : Option (Bool × List Char)) :
    ExponentSpelled exponent (exponentChars exponent) := by
  match exponent with
  | none => exact .absent
  | some (true, digits) => exact .minus (.inl rfl)
  | some (false, digits) => exact .plus (.inl rfl)

theorem Numeral.Proper.spelled {n : Numeral} (proper : n.Proper) : n.Spelled n.chars where
  proper := proper
  written := by
    refine ⟨_, exponentSpelled_chars n.exponent, ?_⟩
    simp only [Numeral.chars, List.append_assoc]
    rfl

/-! ### Values -/

/-- Every string and every key has a text, and every numeral is a proper one. -/
inductive Proper : Json → Prop
  | null : Proper .null
  | bool (b : Bool) : Proper (.bool b)
  | number {n : Numeral} (proper : n.Proper) : Proper (.number n)
  | string (text : String) : Proper (.string (some text))
  | array {items : List Json} (each : ∀ item ∈ items, Proper item) : Proper (.array items)
  | object {members : List (Option String × Json)} (keys : ∀ m ∈ members, m.1.isSome = true)
      (each : ∀ m ∈ members, Proper m.2) : Proper (.object members)

theorem itemsChars_eq (items : List Json) :
    itemsChars items = List.intercalate [','] (items.map chars) := by
  induction items with
  | nil => simp [itemsChars]
  | cons item others ih =>
    cases others with
    | nil => simp [itemsChars]
    | cons next more => simpa [itemsChars, List.intercalate_cons_cons] using ih

/-- How a member is written. -/
def entry (m : Option String × Json) : Entry := ⟨m.1, m.2, quoted (m.1.getD ""), m.2.chars⟩

theorem membersChars_eq (members : List (Option String × Json)) :
    membersChars members = List.intercalate [','] ((members.map entry).map (·.chars)) := by
  induction members with
  | nil => simp [membersChars]
  | cons m others ih =>
    cases others with
    | nil => simp [membersChars, entry, Entry.chars]
    | cons next more =>
      simpa [membersChars, entry, Entry.chars, List.intercalate_cons_cons] using ih

theorem keySpelled_entry {m : Option String × Json} (keyed : m.1.isSome = true) :
    KeySpelled (entry m).key (entry m).keyChars := by
  obtain ⟨key, same⟩ := Option.isSome_iff_exists.mp keyed
  refine ⟨[], quoted key, [], nofun, ?_, nofun, ?_⟩
  · simpa [entry, same] using stringSpelled_quoted key
  · simp [entry, same]

theorem Proper.spelled {j : Json} (proper : Proper j) : j.Spelled j.chars := by
  induction proper with
  | null => exact .null
  | bool b =>
    cases b with
    | true => exact .true
    | false => exact .false
  | number proper => exact .number proper.spelled
  | string text => exact .string (stringSpelled_quoted text)
  | @array items each ih =>
    rw [chars, itemsChars_eq]
    by_cases empty : items = []
    · subst empty
      exact .emptyArray nofun
    · have parts : (items.map fun item => (item, item.chars)) ≠ [] := by simpa using empty
      have spelled := Spelled.array parts (List.forall_mem_map.mpr ih)
      simpa [Function.comp_def] using spelled
  | @object members keys each ih =>
    rw [chars, membersChars_eq]
    by_cases empty : members = []
    · subst empty
      exact .emptyObject nofun
    · have entries : members.map entry ≠ [] := by simpa using empty
      have spelled := Spelled.object entries
        (List.forall_mem_map.mpr fun m member => keySpelled_entry (keys m member))
        (List.forall_mem_map.mpr ih)
      simpa [Function.comp_def, entry, Entry.member] using spelled

/-- A proper value is read back from its text. -/
theorem parse?_render {j : Json} (proper : Proper j) : parse? j.render = some j :=
  parse?_eq_some_iff.mpr (by simpa [render] using proper.spelled)

/-! ### Counts -/

/-- No number but zero begins with a zero. -/
theorem toDigits_of_head {n : Nat} (zero : (Nat.toDigits 10 n).head? = some '0') :
    Nat.toDigits 10 n = ['0'] := by
  induction n using Nat.strongRecOn with
  | _ n ih =>
    by_cases small : n < 10
    · rw [Nat.toDigits_of_lt_base small] at zero ⊢
      rw [Option.some.inj zero]
    · have split : Nat.toDigits 10 n = Nat.toDigits 10 (n / 10) ++ [(n % 10).digitChar] := by
        rw [Nat.toDigits_eq_if (by decide), if_neg small]
      have first : (Nat.toDigits 10 (n / 10)).head? = some '0' := by
        rwa [split, List.head?_append, List.head?_eq_some_head Nat.toDigits_ne_nil,
          Option.some_or, ← List.head?_eq_some_head] at zero
      have none := congrArg (Nat.ofDigitChars 10 · 0) (ih (n / 10) (by omega) first)
      simp only [Nat.ofDigitChars_ten_toDigits] at none
      have : Nat.ofDigitChars 10 ['0'] 0 = 0 := by decide
      omega

/-- The decimal digits of a number make a proper numeral. -/
theorem Numeral.proper_ofNat (n : Nat) : (Numeral.ofNat n).Proper where
  whole := by
    refine ⟨Nat.toDigits_ne_nil, fun c member => ?_⟩
    exact Nat.isDigit_of_mem_toDigits (by decide) (by decide) member
  compact := toDigits_of_head
  fraction := nofun
  exponent := nofun

theorem Numeral.count?_ofNat {n : Nat} (fits : n ≤ maxCount) :
    (Numeral.ofNat n).count? = some n := by
  simp [count?, ofNat, ofDigits, Nat.ofDigitChars_ten_toDigits, fits]

end Entitlement.Json
