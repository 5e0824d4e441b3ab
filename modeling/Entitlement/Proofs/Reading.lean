import Entitlement.Proofs.Grammar

/-!
# What is read

The reader takes in the spellings of a value and nothing else, so a text is read as a value just if
it spells it, and no text spells two values. A reader stops where the value ends, because a numeral,
the only part without an end of its own, is never followed by anything that could belong to it.
-/

namespace Entitlement.Json

variable {cs rest : List Char}

/-! ### What is read is spelled -/

@[simp] theorem value?_skipBlanks (steps : Nat) (cs : List Char) :
    value? steps (skipBlanks cs) = value? steps cs := by
  cases steps with
  | zero => simp [value?]
  | succ steps => rw [value?, value?, skipBlanks_skipBlanks]

@[simp] theorem items?_skipBlanks (steps : Nat) (cs : List Char) :
    items? steps (skipBlanks cs) = items? steps cs := by
  cases steps with
  | zero => simp [items?]
  | succ steps => rw [items?, items?, value?_skipBlanks]

@[simp] theorem members?_skipBlanks (steps : Nat) (cs : List Char) :
    members? steps (skipBlanks cs) = members? steps cs := by
  cases steps with
  | zero => simp [members?]
  | succ steps => rw [members?, members?, skipBlanks_skipBlanks]

/-- Items and the commas between them, at least one item. -/
def ItemsSpelled (items : List Json) (cs : List Char) : Prop :=
  ∃ parts : List (Json × List Char), parts ≠ [] ∧ (∀ p ∈ parts, p.1.Spelled p.2) ∧
    parts.map (·.1) = items ∧ cs = List.intercalate [','] (parts.map (·.2))

/-- Members and the commas between them, at least one member. -/
def MembersSpelled (members : List (Option String × Json)) (cs : List Char) : Prop :=
  ∃ entries : List Entry, entries ≠ [] ∧ (∀ e ∈ entries, KeySpelled e.key e.keyChars) ∧
    (∀ e ∈ entries, e.value.Spelled e.valueChars) ∧ entries.map (·.member) = members ∧
    cs = List.intercalate [','] (entries.map (·.chars))

namespace ItemsSpelled

variable {j : Json} {items : List Json} {more : List Char}

theorem single (spelled : j.Spelled cs) : ItemsSpelled [j] cs :=
  ⟨[(j, cs)], List.cons_ne_nil _ _, by simpa using spelled, rfl, by simp⟩

theorem cons (spelled : j.Spelled cs) (others : ItemsSpelled items more) :
    ItemsSpelled (j :: items) (cs ++ ',' :: more) := by
  obtain ⟨parts, nonempty, each, rfl, rfl⟩ := others
  obtain ⟨p, ps, rfl⟩ := List.exists_cons_of_ne_nil nonempty
  refine ⟨(j, cs) :: p :: ps, List.cons_ne_nil _ _, ?_, rfl, ?_⟩
  · exact List.forall_mem_cons.mpr ⟨spelled, each⟩
  · simp [List.intercalate_cons_cons]

theorem array (spelled : ItemsSpelled items cs) :
    Spelled (.array items) ('[' :: (cs ++ [']'])) := by
  obtain ⟨parts, nonempty, each, rfl, rfl⟩ := spelled
  exact .array nonempty each

end ItemsSpelled

namespace MembersSpelled

variable {key : Option String} {value : Json} {members : List (Option String × Json)}
  {keyChars more : List Char}

theorem single (keySpelled : KeySpelled key keyChars) (spelled : value.Spelled cs) :
    MembersSpelled [(key, value)] (keyChars ++ ':' :: cs) :=
  ⟨[⟨key, value, keyChars, cs⟩], List.cons_ne_nil _ _, by simpa using keySpelled,
    by simpa using spelled, rfl, by simp [Entry.chars]⟩

theorem cons (keySpelled : KeySpelled key keyChars) (spelled : value.Spelled cs)
    (others : MembersSpelled members more) :
    MembersSpelled ((key, value) :: members) (keyChars ++ ':' :: (cs ++ ',' :: more)) := by
  obtain ⟨entries, nonempty, keys, each, rfl, rfl⟩ := others
  obtain ⟨e, es, rfl⟩ := List.exists_cons_of_ne_nil nonempty
  refine ⟨⟨key, value, keyChars, cs⟩ :: e :: es, List.cons_ne_nil _ _, ?_, ?_, rfl, ?_⟩
  · exact List.forall_mem_cons.mpr ⟨keySpelled, keys⟩
  · exact List.forall_mem_cons.mpr ⟨spelled, each⟩
  · simp [Entry.chars, List.intercalate_cons_cons]

theorem object (spelled : MembersSpelled members cs) :
    Spelled (.object members) ('\x7b' :: (cs ++ ['\x7d'])) := by
  obtain ⟨entries, nonempty, keys, each, rfl, rfl⟩ := spelled
  exact .object nonempty keys each

end MembersSpelled

/-- What the reader takes in so many steps, it takes from a spelling. -/
structure TakesSpellings (steps : Nat) : Prop where
  value : ∀ {cs rest : List Char} {j : Json}, value? steps cs = some (j, rest) →
    ∃ core, j.Spelled core ∧ cs = core ++ rest
  items : ∀ {cs rest : List Char} {items : List Json}, items? steps cs = some (items, rest) →
    ∃ core, ItemsSpelled items core ∧ cs = core ++ ']' :: rest
  members : ∀ {cs rest : List Char} {members : List (Option String × Json)},
    members? steps cs = some (members, rest) →
    ∃ core, MembersSpelled members core ∧ cs = core ++ '\x7d' :: rest

theorem Spelled.before {j : Json} {before : List Char} (spelled : j.Spelled cs)
    (blanks : Blanks before) : j.Spelled (before ++ cs) := by
  have none : Blanks [] := nofun
  simpa using Spelled.padded blanks spelled none

theorem Spelled.after {j : Json} {after : List Char} (spelled : j.Spelled cs)
    (blanks : Blanks after) : j.Spelled (cs ++ after) := by
  have none : Blanks [] := nofun
  exact .padded none spelled blanks

/-- A key and the blanks around it, up to its colon. -/
theorem exists_keySpelled {inner left : List Char} {key : Option String}
    (opened : skipBlanks cs = '\x22' :: inner) (read : string? inner = some (key, left))
    (colon : skipBlanks left = ':' :: rest) :
    ∃ keyChars, KeySpelled key keyChars ∧ cs = keyChars ++ ':' :: rest := by
  obtain ⟨before, blanksBefore, split⟩ := exists_blanks cs
  obtain ⟨core, quoted, shown⟩ := string?_sound read
  obtain ⟨after, blanksAfter, splitAfter⟩ := exists_blanks left
  rw [opened, shown, splitAfter, colon] at split
  exact ⟨_, ⟨before, core, after, blanksBefore, quoted, blanksAfter, rfl⟩, by simp [split]⟩

namespace TakesSpellings

variable {steps : Nat} (takes : TakesSpellings steps)

include takes

/-- A value and the blanks behind it, up to the next mark. -/
theorem value_until {j : Json} {mark : Char} {left : List Char}
    (read : value? steps cs = some (j, left)) (next : skipBlanks left = mark :: rest) :
    ∃ core, j.Spelled core ∧ cs = core ++ mark :: rest := by
  obtain ⟨core, spelled, rfl⟩ := takes.value read
  obtain ⟨between, blanks, split⟩ := exists_blanks left
  rw [next] at split
  exact ⟨core ++ between, spelled.after blanks, by rw [split, List.append_assoc]⟩

theorem succ_value {j : Json} (read : value? (steps + 1) cs = some (j, rest)) :
    ∃ core, j.Spelled core ∧ cs = core ++ rest := by
  obtain ⟨before, blanks, split⟩ := exists_blanks cs
  suffices shown : ∃ core, j.Spelled core ∧ skipBlanks cs = core ++ rest by
    obtain ⟨core, spelled, same⟩ := shown
    exact ⟨before ++ core, spelled.before blanks, by rw [List.append_assoc, ← same, ← split]⟩
  rw [value?] at read
  split at read
  case h_1 same =>
    cases read
    exact ⟨_, .null, same⟩
  case h_2 same =>
    cases read
    exact ⟨_, .true, same⟩
  case h_3 same =>
    cases read
    exact ⟨_, .false, same⟩
  case h_4 inner same =>
    simp only [Option.bind_eq_bind, Option.bind_eq_some_iff] at read
    obtain ⟨⟨text, left⟩, found, equal⟩ := read
    cases equal
    obtain ⟨core, spelled, shown⟩ := string?_sound found
    exact ⟨core, .string spelled, same.trans shown⟩
  case h_5 inner same =>
    obtain ⟨between, blanks, split⟩ := exists_blanks inner
    split at read
    · next closed =>
      cases read
      rw [closed] at split
      exact ⟨_, .emptyArray blanks, by simp [same, split]⟩
    · simp only [Option.bind_eq_bind, Option.bind_eq_some_iff, items?_skipBlanks] at read
      obtain ⟨⟨items, left⟩, found, equal⟩ := read
      cases equal
      obtain ⟨core, spelled, rfl⟩ := takes.items found
      exact ⟨_, spelled.array, by simp [same]⟩
  case h_6 inner same =>
    obtain ⟨between, blanks, split⟩ := exists_blanks inner
    split at read
    · next closed =>
      cases read
      rw [closed] at split
      exact ⟨_, .emptyObject blanks, by simp [same, split]⟩
    · simp only [Option.bind_eq_bind, Option.bind_eq_some_iff, members?_skipBlanks] at read
      obtain ⟨⟨members, left⟩, found, equal⟩ := read
      cases equal
      obtain ⟨core, spelled, rfl⟩ := takes.members found
      exact ⟨_, spelled.object, by simp [same]⟩
  case h_7 =>
    simp only [Option.bind_eq_bind, Option.bind_eq_some_iff] at read
    obtain ⟨⟨n, left⟩, found, equal⟩ := read
    cases equal
    obtain ⟨core, spelled, shown⟩ := numeral?_sound found
    exact ⟨core, .number spelled, shown⟩

theorem succ_items {items : List Json} (read : items? (steps + 1) cs = some (items, rest)) :
    ∃ core, ItemsSpelled items core ∧ cs = core ++ ']' :: rest := by
  simp only [items?, Option.bind_eq_bind, Option.bind_eq_some_iff] at read
  obtain ⟨⟨item, left⟩, found, read⟩ := read
  split at read
  · next following more =>
    simp only [Option.bind_eq_some_iff] at read
    obtain ⟨⟨others, last⟩, later, equal⟩ := read
    cases equal
    obtain ⟨core, spelled, rfl⟩ := takes.value_until found more
    obtain ⟨_, othersSpelled, rfl⟩ := takes.items later
    exact ⟨_, .cons spelled othersSpelled, by simp⟩
  · next closed =>
    cases read
    obtain ⟨core, spelled, rfl⟩ := takes.value_until found closed
    exact ⟨core, .single spelled, rfl⟩
  · cases read

theorem succ_members {members : List (Option String × Json)}
    (read : members? (steps + 1) cs = some (members, rest)) :
    ∃ core, MembersSpelled members core ∧ cs = core ++ '\x7d' :: rest := by
  rw [members?] at read
  split at read
  · next inner opened =>
    simp only [Option.bind_eq_bind, Option.bind_eq_some_iff] at read
    obtain ⟨⟨key, left⟩, quoted, read⟩ := read
    split at read
    · next behind colon =>
      obtain ⟨keyChars, keySpelled, rfl⟩ := exists_keySpelled opened quoted colon
      simp only [Option.bind_eq_some_iff] at read
      obtain ⟨⟨value, last⟩, found, read⟩ := read
      split at read
      · next following more =>
        simp only [Option.bind_eq_some_iff] at read
        obtain ⟨⟨others, final⟩, later, equal⟩ := read
        cases equal
        obtain ⟨core, spelled, rfl⟩ := takes.value_until found more
        obtain ⟨_, othersSpelled, rfl⟩ := takes.members later
        exact ⟨_, .cons keySpelled spelled othersSpelled, by simp⟩
      · next closed =>
        cases read
        obtain ⟨core, spelled, rfl⟩ := takes.value_until found closed
        exact ⟨_, .single keySpelled spelled, by simp⟩
      · cases read
    · cases read
  · cases read

end TakesSpellings

theorem takesSpellings (steps : Nat) : TakesSpellings steps := by
  induction steps with
  | zero => exact ⟨by simp [value?], by simp [items?], by simp [members?]⟩
  | succ steps ih => exact ⟨ih.succ_value, ih.succ_items, ih.succ_members⟩

/-! ### What is spelled is read -/

/-- With steps enough for its length the spelling is read, up to some of its last blanks. -/
def Reads (j : Json) (cs : List Char) : Prop :=
  ∀ steps rest, 2 * cs.length ≤ steps → Ends rest →
    ∃ tail, Blanks tail ∧ value? steps (cs ++ rest) = some (j, tail ++ rest)

theorem ends_cons {c : Char} (rest : List Char) (mark : c ∈ [',', ']', '\x7d']) :
    Ends (c :: rest) := by
  intro d first
  obtain rfl : c = d := Option.some.inj first
  simp only [List.mem_cons, List.not_mem_nil, or_false] at mark
  rcases mark with rfl | rfl | rfl <;> decide

theorem Blanks.ends {after : List Char} (blanks : Blanks after) (ends : Ends rest) :
    Ends (after ++ rest) := by
  cases after with
  | nil => exact ends
  | cons c more =>
    intro d first
    obtain rfl : c = d := Option.some.inj first
    have blank := blanks c List.mem_cons_self
    simp only [isBlankChar, Bool.or_eq_true, beq_iff_eq] at blank
    rcases blank with ((rfl | rfl) | rfl) | rfl <;> decide

/-- A value is read up to the next mark. -/
theorem Reads.until {j : Json} (reads : Reads j cs) {steps : Nat} (enough : 2 * cs.length ≤ steps)
    {mark : Char} (marks : mark ∈ [',', ']', '\x7d']) (rest : List Char) :
    ∃ left, value? steps (cs ++ mark :: rest) = some (j, left) ∧
      skipBlanks left = mark :: rest := by
  obtain ⟨tail, blanks, read⟩ := reads steps (mark :: rest) enough (ends_cons rest marks)
  refine ⟨_, read, blanks.skip_cons ?_ rest⟩
  simp only [List.mem_cons, List.not_mem_nil, or_false] at marks
  rcases marks with rfl | rfl | rfl <;> rfl

theorem items?_append {parts : List (Json × List Char)} (nonempty : parts ≠ [])
    (each : ∀ p ∈ parts, Reads p.1 p.2) {steps : Nat} (rest : List Char)
    (enough : 2 * (List.intercalate [','] (parts.map (·.2))).length < steps) :
    items? steps (List.intercalate [','] (parts.map (·.2)) ++ ']' :: rest) =
      some (parts.map (·.1), rest) := by
  induction parts generalizing steps with
  | nil => exact absurd rfl nonempty
  | cons p others ih =>
    obtain ⟨left, rfl⟩ := Nat.exists_eq_succ_of_ne_zero (Nat.ne_zero_of_lt enough)
    have first := each p List.mem_cons_self
    cases others with
    | nil =>
      simp only [List.map_cons, List.map_nil, List.intercalate_singleton] at enough ⊢
      have closed : ']' ∈ [',', ']', '\x7d'] := by simp
      obtain ⟨behind, read, next⟩ := first.until (Nat.le_of_lt_succ enough) closed rest
      simp [items?, read, next]
    | cons q more =>
      simp only [List.map_cons, List.intercalate_cons_cons, List.length_append,
        List.length_singleton] at enough ih ⊢
      have room : 2 * p.2.length ≤ left ∧
          2 * (List.intercalate [','] (q.2 :: more.map (·.2))).length < left := by omega
      have comma : ',' ∈ [',', ']', '\x7d'] := by simp
      obtain ⟨behind, read, next⟩ := first.until room.1 comma
        (List.intercalate [','] (q.2 :: more.map (·.2)) ++ ']' :: rest)
      have later := ih (List.cons_ne_nil q more)
        (fun r member => each r (List.mem_cons_of_mem _ member)) room.2
      simp [items?, read, next, later]

/-- A key is read up to its colon. -/
theorem KeySpelled.read {key : Option String} (spelled : KeySpelled key cs) (rest : List Char) :
    ∃ inner left, skipBlanks (cs ++ ':' :: rest) = '\x22' :: inner ∧
      string? inner = some (key, left) ∧ skipBlanks left = ':' :: rest := by
  obtain ⟨before, core, after, blanksBefore, quoted, blanksAfter, rfl⟩ := spelled
  obtain ⟨inner, opened, read⟩ := quoted.read (after ++ ':' :: rest)
  refine ⟨inner, _, ?_, read, blanksAfter.skip_cons (by decide) rest⟩
  rw [List.append_assoc, List.append_assoc, opened]
  exact blanksBefore.skip_cons (by decide) inner

theorem members?_append {entries : List Entry} (nonempty : entries ≠ [])
    (keys : ∀ e ∈ entries, KeySpelled e.key e.keyChars)
    (each : ∀ e ∈ entries, Reads e.value e.valueChars) {steps : Nat} (rest : List Char)
    (enough : 2 * (List.intercalate [','] (entries.map (·.chars))).length < steps) :
    members? steps (List.intercalate [','] (entries.map (·.chars)) ++ '\x7d' :: rest) =
      some (entries.map (·.member), rest) := by
  induction entries generalizing steps with
  | nil => exact absurd rfl nonempty
  | cons e others ih =>
    obtain ⟨left, rfl⟩ := Nat.exists_eq_succ_of_ne_zero (Nat.ne_zero_of_lt enough)
    have first := each e List.mem_cons_self
    have key := keys e List.mem_cons_self
    cases others with
    | nil =>
      simp only [List.map_cons, List.map_nil, List.intercalate_singleton] at enough ⊢
      have room : 2 * e.valueChars.length ≤ left := by
        simp only [Entry.chars, List.length_append, List.length_cons] at enough
        omega
      have closed : '\x7d' ∈ [',', ']', '\x7d'] := by simp
      obtain ⟨behind, read, next⟩ := first.until room closed rest
      obtain ⟨inner, afterKey, opened, quoted, colon⟩ := key.read (e.valueChars ++ '\x7d' :: rest)
      simp [members?, Entry.chars, Entry.member, opened, quoted, colon, read, next]
    | cons d more =>
      simp only [List.map_cons, List.intercalate_cons_cons, List.length_append,
        List.length_singleton] at enough ih ⊢
      have room : 2 * e.valueChars.length ≤ left ∧
          2 * (List.intercalate [','] (d.chars :: more.map (·.chars))).length < left := by
        have own : e.chars.length = e.keyChars.length + (e.valueChars.length + 1) := by
          simp [Entry.chars]
        omega
      have comma : ',' ∈ [',', ']', '\x7d'] := by simp
      have later := ih (List.cons_ne_nil d more)
        (fun r member => keys r (List.mem_cons_of_mem _ member))
        (fun r member => each r (List.mem_cons_of_mem _ member)) room.2
      obtain ⟨behind, read, next⟩ := first.until room.1 comma
        (List.intercalate [','] (d.chars :: more.map (·.chars)) ++ '\x7d' :: rest)
      obtain ⟨inner, afterKey, opened, quoted, colon⟩ := key.read (e.valueChars ++
        ',' :: (List.intercalate [','] (d.chars :: more.map (·.chars)) ++ '\x7d' :: rest))
      have begins : e.chars ++ [','] ++ List.intercalate [','] (d.chars :: more.map (·.chars)) ++
          '\x7d' :: rest = e.keyChars ++ ':' :: (e.valueChars ++
            ',' :: (List.intercalate [','] (d.chars :: more.map (·.chars)) ++ '\x7d' :: rest)) := by
        simp [Entry.chars]
      rw [begins]
      simp [members?, Entry.member, opened, quoted, colon, read, next, later]

/-- What a numeral begins with. -/
def Leads (c : Char) : Prop := c = '-' ∨ c.isDigit = true

theorem Leads.ne {c d : Char} (leads : Leads c) (other : d ≠ '-') (noDigit : d.isDigit = false) :
    c ≠ d := by
  rintro rfl
  rcases leads with rfl | isDigit
  · exact other rfl
  · rw [noDigit] at isDigit
    cases isDigit

theorem Leads.visible {c : Char} (leads : Leads c) : isBlankChar c = false := by
  simp [isBlankChar, leads.ne]

theorem Numeral.Spelled.exists_leads {n : Numeral} (spelled : n.Spelled cs) :
    ∃ c more, cs = c :: more ∧ Leads c := by
  obtain ⟨proper, core, -, rfl⟩ := spelled
  cases n.negative with
  | true => exact ⟨'-', _, rfl, .inl rfl⟩
  | false =>
    obtain ⟨c, more, whole⟩ := List.exists_cons_of_ne_nil proper.whole.1
    rw [whole]
    exact ⟨c, _, rfl, .inr (proper.whole.2 c (by simp [whole]))⟩

theorem value?_number {n : Numeral} (spelled : n.Spelled cs) (steps : Nat) (ends : Ends rest) :
    value? (steps + 1) (cs ++ rest) = some (.number n, rest) := by
  have read := spelled.read ends
  obtain ⟨c, more, rfl, leads⟩ := spelled.exists_leads
  rw [List.cons_append] at read ⊢
  rw [value?, skipBlanks_cons leads.visible]
  split
  case h_7 => simp [read]
  all_goals
    next same =>
      have clash := (List.cons.inj same).1
      exact absurd clash (leads.ne (by decide) (by decide))

/-- No value begins with the end of a list. -/
theorem items?_of_closed {steps : Nat} (closed : skipBlanks cs = ']' :: rest) :
    items? steps cs = none := by
  rw [← items?_skipBlanks, closed]
  have none (steps : Nat) : value? steps (']' :: rest) = none := by
    cases steps with
    | zero => simp [value?]
    | succ steps => simp [value?, skipBlanks, isBlankChar, numeral?, whole?, digits?]
  cases steps with
  | zero => simp [items?]
  | succ steps => simp [items?, none]

/-- No member begins with the end of an object. -/
theorem members?_of_closed {steps : Nat} (closed : skipBlanks cs = '\x7d' :: rest) :
    members? steps cs = none := by
  cases steps with
  | zero => simp [members?]
  | succ steps => simp [members?, closed]

theorem value?_emptyArray {steps : Nat} (closed : skipBlanks cs = ']' :: rest) :
    value? (steps + 1) ('[' :: cs) = some (.array [], rest) := by
  rw [value?, skipBlanks_cons (by decide)]
  simp [closed]

theorem value?_emptyObject {steps : Nat} (closed : skipBlanks cs = '\x7d' :: rest) :
    value? (steps + 1) ('\x7b' :: cs) = some (.object [], rest) := by
  rw [value?, skipBlanks_cons (by decide)]
  simp [closed]

theorem value?_array {steps : Nat} {items : List Json}
    (read : items? steps cs = some (items, rest)) :
    value? (steps + 1) ('[' :: cs) = some (.array items, rest) := by
  rw [value?, skipBlanks_cons (by decide)]
  simp only
  split
  · next closed =>
    rw [items?_of_closed closed] at read
    cases read
  · simp [read]

theorem value?_object {steps : Nat} {members : List (Option String × Json)}
    (read : members? steps cs = some (members, rest)) :
    value? (steps + 1) ('\x7b' :: cs) = some (.object members, rest) := by
  rw [value?, skipBlanks_cons (by decide)]
  simp only
  split
  · next closed =>
    rw [members?_of_closed closed] at read
    cases read
  · simp [read]

/-- A spelling that is not empty has steps left for its first character. -/
theorem Reads.of_exact {j : Json} (nonempty : cs ≠ [])
    (read : ∀ steps rest, 2 * cs.length ≤ steps + 1 → Ends rest →
      value? (steps + 1) (cs ++ rest) = some (j, rest)) : Reads j cs := by
  intro steps rest enough ends
  have positive := List.length_pos_iff.mpr nonempty
  obtain ⟨left, rfl⟩ := Nat.exists_eq_succ_of_ne_zero (show steps ≠ 0 by omega)
  exact ⟨[], nofun, read left rest enough ends⟩

theorem Spelled.reads {j : Json} (spelled : j.Spelled cs) : Reads j cs := by
  induction spelled with
  | padded left inner right ih =>
    intro steps rest enough ends
    simp only [List.length_append] at enough
    obtain ⟨tail, blanks, read⟩ := ih steps _ (by omega) (right.ends ends)
    refine ⟨_, blanks.append right, ?_⟩
    rw [List.append_assoc, List.append_assoc, ← value?_skipBlanks, left.skip, value?_skipBlanks,
      read, List.append_assoc]
  | number numeral =>
    obtain ⟨c, more, rfl, -⟩ := numeral.exists_leads
    exact .of_exact (List.cons_ne_nil c more) fun steps rest _ ends =>
      value?_number numeral steps ends
  | string quoted =>
    refine .of_exact ?_ fun steps rest _ _ => ?_
    · obtain ⟨_, _, -, -, rfl⟩ := quoted
      exact List.cons_ne_nil _ _
    · obtain ⟨inner, opened, read⟩ := quoted.read rest
      simp [opened, value?, skipBlanks, isBlankChar, read]
  | null | true | false =>
    refine .of_exact (List.cons_ne_nil _ _) fun steps rest _ _ => ?_
    simp [value?, skipBlanks, isBlankChar]
  | emptyArray blanks =>
    refine .of_exact (List.cons_ne_nil _ _) fun steps rest _ _ => ?_
    rw [List.cons_append, List.append_assoc]
    exact value?_emptyArray (blanks.skip_cons (by decide) rest)
  | emptyObject blanks =>
    refine .of_exact (List.cons_ne_nil _ _) fun steps rest _ _ => ?_
    rw [List.cons_append, List.append_assoc]
    exact value?_emptyObject (blanks.skip_cons (by decide) rest)
  | array nonempty each ih =>
    refine .of_exact (List.cons_ne_nil _ _) fun steps rest enough _ => ?_
    simp only [List.length_cons, List.length_append, List.length_nil] at enough
    rw [List.cons_append, List.append_assoc]
    exact value?_array (items?_append nonempty ih rest (by omega))
  | object nonempty keys each ih =>
    refine .of_exact (List.cons_ne_nil _ _) fun steps rest enough _ => ?_
    simp only [List.length_cons, List.length_append, List.length_nil] at enough
    rw [List.cons_append, List.append_assoc]
    exact value?_object (members?_append nonempty keys ih rest (by omega))

/-! ### Main result -/

/-- A text is read as a value just if it spells it. -/
theorem parse?_eq_some_iff {text : String} {j : Json} :
    parse? text = some j ↔ j.Spelled text.toList := by
  simp only [parse?, Option.bind_eq_bind, Option.bind_eq_some_iff]
  constructor
  · rintro ⟨⟨value, left⟩, read, whole⟩
    split at whole
    · next ended =>
      cases whole
      obtain ⟨core, spelled, same⟩ := (takesSpellings _).value read
      rw [same]
      exact spelled.after (blanks_of_skipBlanks (List.isEmpty_iff.mp ended))
    · cases whole
  · intro spelled
    obtain ⟨tail, blanks, read⟩ :=
      spelled.reads (2 * text.toList.length + 2) [] (Nat.le_add_right _ 2) nofun
    rw [List.append_nil, List.append_nil] at read
    exact ⟨_, read, by simp [blanks.skip_all]⟩

/-- No text spells two values. -/
theorem Spelled.unique {j other : Json} (spelled : j.Spelled cs) (also : other.Spelled cs) :
    j = other := by
  have read : parse? (String.ofList cs) = some j := parse?_eq_some_iff.mpr (by simpa using spelled)
  rw [parse?_eq_some_iff.mpr (by simpa using also)] at read
  exact (Option.some.inj read).symm

end Entitlement.Json
