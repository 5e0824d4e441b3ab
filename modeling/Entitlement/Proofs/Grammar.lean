import Entitlement.Json.Read

/-!
# The grammar of JSON

Which texts spell which values, said without reading any: blanks may stand around every value and
every key, most characters of a string can be written in several ways, and so can an exponent. A
string and a numeral are read just where they are spelled.
-/

namespace Entitlement.Json

/-! ### Spellings -/

def Blanks (cs : List Char) : Prop := ∀ c ∈ cs, isBlankChar c = true

/-- A character stands for itself, for what its escape means, or as four digits for a unit. -/
inductive Piece.Spelled : Piece → List Char → Prop
  | plain {c : Char} (notQuote : c ≠ '\x22') (notSlash : c ≠ '\\') (visible : ¬ c.toNat < 32) :
      Spelled (.char c) [c]
  | short {mark c : Char} (escape : shortEscape? mark = some c) : Spelled (.char c) ['\\', mark]
  | unit {a b c d : Char} {n : Nat} (digits : hexUnit? a b c d = some n) :
      Spelled (.unit n) ['\\', 'u', a, b, c, d]

inductive PiecesSpelled : List Piece → List Char → Prop
  | nil : PiecesSpelled [] []
  | cons {p : Piece} {ps : List Piece} {cs more : List Char} (first : p.Spelled cs)
      (rest : PiecesSpelled ps more) : PiecesSpelled (p :: ps) (cs ++ more)

/-- The characters that pieces stand for. A unit stands for its character, and two surrogates, the
high one first, for one of the characters beyond. -/
inductive Joined : List Piece → List Char → Prop
  | nil : Joined [] []
  | char {c : Char} {ps : List Piece} {cs : List Char} (rest : Joined ps cs) :
      Joined (.char c :: ps) (c :: cs)
  | unit {n : Nat} {ps : List Piece} {cs : List Char} (notHigh : isHighSurrogate n = false)
      (notLow : isLowSurrogate n = false) (rest : Joined ps cs) :
      Joined (.unit n :: ps) (Char.ofNat n :: cs)
  | pair {high low : Nat} {ps : List Piece} {cs : List Char} (first : isHighSurrogate high = true)
      (second : isLowSurrogate low = true) (rest : Joined ps cs) :
      Joined (.unit high :: .unit low :: ps)
        (Char.ofNat (0x10000 + 1024 * (high - 0xD800) + (low - 0xDC00)) :: cs)

/-- A string with its quotation marks. It has a text just if its pieces join up. -/
def StringSpelled (text : Option String) (cs : List Char) : Prop :=
  ∃ ps body, PiecesSpelled ps body ∧ (∀ s : String, text = some s ↔ Joined ps s.toList) ∧
    cs = '\x22' :: (body ++ ['\x22'])

/-- Digits, at least one. -/
def AreDigits (cs : List Char) : Prop := cs ≠ [] ∧ ∀ c ∈ cs, c.isDigit = true

/-- The numeral has the parts that the grammar asks for: digits wherever it has digits, and no
needless zero at the front. -/
structure Numeral.Proper (n : Numeral) : Prop where
  whole : AreDigits n.whole
  compact : n.whole.head? = some '0' → n.whole = ['0']
  fraction : ∀ digits ∈ n.fraction, AreDigits digits
  exponent : ∀ e ∈ n.exponent, AreDigits e.2

def fractionChars (fraction : Option (List Char)) : List Char :=
  match fraction with
  | none => []
  | some digits => '.' :: digits

/-- The letter of an exponent may be of either case, and a plus may be left out. -/
inductive ExponentSpelled : Option (Bool × List Char) → List Char → Prop
  | absent : ExponentSpelled none []
  | minus {mark : Char} {digits : List Char} (marked : mark = 'e' ∨ mark = 'E') :
      ExponentSpelled (some (true, digits)) (mark :: '-' :: digits)
  | plus {mark : Char} {digits : List Char} (marked : mark = 'e' ∨ mark = 'E') :
      ExponentSpelled (some (false, digits)) (mark :: '+' :: digits)
  | bare {mark : Char} {digits : List Char} (marked : mark = 'e' ∨ mark = 'E') :
      ExponentSpelled (some (false, digits)) (mark :: digits)

structure Numeral.Spelled (n : Numeral) (cs : List Char) : Prop where
  proper : n.Proper
  written : ∃ exponent, ExponentSpelled n.exponent exponent ∧
    cs = (if n.negative then ['-'] else []) ++ (n.whole ++ (fractionChars n.fraction ++ exponent))

/-- A key is a string with blanks around it. -/
def KeySpelled (key : Option String) (cs : List Char) : Prop :=
  ∃ before core after, Blanks before ∧ StringSpelled key core ∧ Blanks after ∧
    cs = before ++ (core ++ after)

/-- A member of an object, and how its key and its value are spelled. -/
structure Entry where
  key : Option String
  value : Json
  keyChars : List Char
  valueChars : List Char

namespace Entry

def member (e : Entry) : Option String × Json := (e.key, e.value)

def chars (e : Entry) : List Char := e.keyChars ++ ':' :: e.valueChars

end Entry

/-- The texts of a value. -/
inductive Spelled : Json → List Char → Prop
  | null : Spelled .null ['n', 'u', 'l', 'l']
  | true : Spelled (.bool true) ['t', 'r', 'u', 'e']
  | false : Spelled (.bool false) ['f', 'a', 'l', 's', 'e']
  | number {n : Numeral} {cs : List Char} (numeral : n.Spelled cs) : Spelled (.number n) cs
  | string {text : Option String} {cs : List Char} (quoted : StringSpelled text cs) :
      Spelled (.string text) cs
  | padded {j : Json} {before cs after : List Char} (left : Blanks before) (inner : Spelled j cs)
      (right : Blanks after) : Spelled j (before ++ (cs ++ after))
  | emptyArray {between : List Char} (blanks : Blanks between) :
      Spelled (.array []) ('[' :: (between ++ [']']))
  | array {parts : List (Json × List Char)} (nonempty : parts ≠ [])
      (each : ∀ p ∈ parts, Spelled p.1 p.2) :
      Spelled (.array (parts.map (·.1)))
        ('[' :: (List.intercalate [','] (parts.map (·.2)) ++ [']']))
  | emptyObject {between : List Char} (blanks : Blanks between) :
      Spelled (.object []) ('\x7b' :: (between ++ ['\x7d']))
  | object {entries : List Entry} (nonempty : entries ≠ [])
      (keys : ∀ e ∈ entries, KeySpelled e.key e.keyChars)
      (each : ∀ e ∈ entries, Spelled e.value e.valueChars) :
      Spelled (.object (entries.map (·.member)))
        ('\x7b' :: (List.intercalate [','] (entries.map (·.chars)) ++ ['\x7d']))

/-! ### Blanks -/

variable {cs rest : List Char}

theorem exists_blanks (cs : List Char) : ∃ before, Blanks before ∧ cs = before ++ skipBlanks cs :=
  ⟨cs.takeWhile isBlankChar, List.all_eq_true.mp List.all_takeWhile,
    List.takeWhile_append_dropWhile.symm⟩

theorem Blanks.skip {before : List Char} (blanks : Blanks before) (rest : List Char) :
    skipBlanks (before ++ rest) = skipBlanks rest :=
  List.dropWhile_append_of_pos blanks

theorem Blanks.append {before after : List Char} (left : Blanks before) (right : Blanks after) :
    Blanks (before ++ after) :=
  List.forall_mem_append.mpr ⟨left, right⟩

theorem skipBlanks_cons {c : Char} (visible : isBlankChar c = false) (rest : List Char) :
    skipBlanks (c :: rest) = c :: rest := by
  simp [skipBlanks, visible]

theorem Blanks.skip_cons {before : List Char} (blanks : Blanks before) {c : Char}
    (visible : isBlankChar c = false) (rest : List Char) :
    skipBlanks (before ++ c :: rest) = c :: rest := by
  rw [blanks.skip, skipBlanks_cons visible]

theorem Blanks.skip_all (blanks : Blanks cs) : skipBlanks cs = [] := by
  have skipped := blanks.skip []
  rwa [List.append_nil] at skipped

theorem skipBlanks_skipBlanks (cs : List Char) : skipBlanks (skipBlanks cs) = skipBlanks cs := by
  obtain ⟨before, blanks, split⟩ := exists_blanks cs
  have skipped := blanks.skip (skipBlanks cs)
  rw [← split] at skipped
  exact skipped.symm

theorem blanks_of_skipBlanks (nothing : skipBlanks cs = []) : Blanks cs := by
  obtain ⟨before, blanks, split⟩ := exists_blanks cs
  rw [nothing, List.append_nil] at split
  exact split ▸ blanks

/-! ### Strings -/

theorem pieces?_sound {ps : List Piece} (read : pieces? cs = some (ps, rest)) :
    ∃ body, PiecesSpelled ps body ∧ cs = body ++ '\x22' :: rest := by
  fun_induction pieces? cs generalizing ps with
  | case1 => cases read
  | case2 =>
    cases read
    exact ⟨[], .nil, rfl⟩
  | case3 a b c d more ih =>
    simp only [Option.bind_eq_bind, Option.bind_eq_some_iff] at read
    obtain ⟨unit, digits, ⟨others, left⟩, found, same⟩ := read
    cases same
    obtain ⟨body, spelled, rfl⟩ := ih found
    exact ⟨_, .cons (.unit digits) spelled, rfl⟩
  | case4 c more plain ih =>
    simp only [Option.bind_eq_bind, Option.bind_eq_some_iff] at read
    obtain ⟨char, escape, ⟨others, left⟩, found, same⟩ := read
    cases same
    obtain ⟨body, spelled, rfl⟩ := ih found
    exact ⟨_, .cons (.short escape) spelled, rfl⟩
  | case5 => cases read
  | case6 c more notQuote _ notEscape visible ih =>
    simp only [Option.bind_eq_bind, Option.bind_eq_some_iff] at read
    obtain ⟨⟨others, left⟩, found, same⟩ := read
    cases same
    obtain ⟨body, spelled, rfl⟩ := ih found
    have notSlash : c ≠ '\\' := by
      rintro rfl
      cases body <;> exact notEscape _ _ rfl rfl
    exact ⟨_, .cons (.plain notQuote notSlash visible) spelled, rfl⟩

theorem Piece.Spelled.read {p : Piece} {ps : List Piece} {more : List Char} (spelled : p.Spelled cs)
    (found : pieces? more = some (ps, rest)) : pieces? (cs ++ more) = some (p :: ps, rest) := by
  cases spelled with
  | @plain c notQuote notSlash visible =>
    rw [List.singleton_append, pieces?]
    · simp [visible, found]
    all_goals simp [notQuote, notSlash]
  | @short mark c escape =>
    have plain : mark ≠ 'u' := by
      rintro rfl
      cases escape
    rw [List.cons_append, List.singleton_append, pieces?]
    · simp [escape, found]
    · rintro a b c d more same -
      exact plain same
  | unit digits => simp [pieces?, digits, found]

theorem PiecesSpelled.read {ps : List Piece} {body : List Char} (spelled : PiecesSpelled ps body)
    (rest : List Char) : pieces? (body ++ '\x22' :: rest) = some (ps, rest) := by
  induction spelled with
  | nil => simp [pieces?]
  | cons first others ih =>
    rw [List.append_assoc]
    exact first.read ih

theorem Joined.of_join? {ps : List Piece} (joined : join? ps = some cs) : Joined ps cs := by
  fun_induction join? ps generalizing cs with
  | case1 =>
    cases joined
    exact .nil
  | case2 c rest ih =>
    obtain ⟨others, found, rfl⟩ := Option.map_eq_some_iff.mp joined
    exact .char (ih found)
  | case3 high low others first second code =>
    rename_i ih
    obtain ⟨others, found, rfl⟩ := Option.map_eq_some_iff.mp joined
    exact .pair first second (ih found)
  | case6 high low rest notHigh notLow ih =>
    obtain ⟨others, found, rfl⟩ := Option.map_eq_some_iff.mp joined
    exact .unit (by simpa using notHigh) (by simpa using notLow) (ih found)
  | case8 n rest alone plain ih =>
    obtain ⟨others, found, rfl⟩ := Option.map_eq_some_iff.mp joined
    simp only [Bool.or_eq_true, not_or, Bool.not_eq_true] at plain
    exact .unit plain.1 plain.2 (ih found)
  | case4 | case5 | case7 => cases joined

theorem Joined.join? {ps : List Piece} (joined : Joined ps cs) : Json.join? ps = some cs := by
  induction joined with
  | nil => rw [Json.join?]
  | char rest ih => rw [Json.join?, ih, Option.map_some]
  | @unit n ps cs notHigh notLow rest ih =>
    rw [join?.eq_def]
    cases ps with
    | nil => simp_all
    | cons q others => cases q <;> simp [notHigh, notLow, ih]
  | pair first second rest ih => simp [Json.join?, first, second, ih]

theorem text_eq_some_iff {ps : List Piece} {s : String} :
    (join? ps).map String.ofList = some s ↔ Joined ps s.toList := by
  rw [Option.map_eq_some_iff]
  constructor
  · rintro ⟨cs, found, rfl⟩
    simpa using Joined.of_join? found
  · exact fun joined => ⟨s.toList, joined.join?, String.ofList_toList⟩

/-- Behind the mark that opens it a string is read to its end. -/
theorem string?_sound {text : Option String} (read : string? cs = some (text, rest)) :
    ∃ core, StringSpelled text core ∧ '\x22' :: cs = core ++ rest := by
  simp only [string?, Option.bind_eq_bind, Option.bind_eq_some_iff] at read
  obtain ⟨⟨ps, left⟩, found, same⟩ := read
  cases same
  obtain ⟨body, spelled, rfl⟩ := pieces?_sound found
  exact ⟨_, ⟨ps, body, spelled, fun s => text_eq_some_iff, rfl⟩, by simp⟩

theorem StringSpelled.read {text : Option String} (spelled : StringSpelled text cs)
    (rest : List Char) :
    ∃ inner, cs ++ rest = '\x22' :: inner ∧ string? inner = some (text, rest) := by
  obtain ⟨ps, body, pieces, joins, rfl⟩ := spelled
  refine ⟨body ++ '\x22' :: rest, by simp, ?_⟩
  have joined : (join? ps).map String.ofList = text :=
    Option.ext fun s => text_eq_some_iff.trans (joins s).symm
  simp [string?, pieces.read, joined]

/-! ### Numerals -/

def NoDigit (rest : List Char) : Prop := ∀ c ∈ rest.head?, c.isDigit = false

/-- Nothing that follows could belong to a numeral. -/
def Ends (rest : List Char) : Prop :=
  ∀ c ∈ rest.head?, c.isDigit = false ∧ c ≠ '.' ∧ c ≠ 'e' ∧ c ≠ 'E'

theorem digits?_sound {digits : List Char} (read : digits? cs = some (digits, rest)) :
    AreDigits digits ∧ cs = digits ++ rest := by
  unfold digits? at read
  split at read
  · cases read
  · next some =>
    cases read
    exact ⟨⟨some, List.all_eq_true.mp List.all_takeWhile⟩, List.takeWhile_append_dropWhile.symm⟩

theorem whole?_sound {digits : List Char} (read : whole? cs = some (digits, rest)) :
    AreDigits digits ∧ (digits.head? = some '0' → digits = ['0']) ∧ cs = digits ++ rest := by
  simp only [whole?, Option.bind_eq_bind, Option.bind_eq_some_iff] at read
  obtain ⟨⟨found, left⟩, read, compact⟩ := read
  obtain ⟨are, split⟩ := digits?_sound read
  split at compact
  · cases compact
  · next needed =>
    cases compact
    refine ⟨are, fun zero => ?_, split⟩
    obtain ⟨c, more, rfl⟩ := List.exists_cons_of_ne_nil are.1
    obtain rfl : c = '0' := Option.some.inj zero
    cases more with
    | nil => rfl
    | cons d others => exact absurd rfl (needed d others)

theorem fraction?_sound {fraction : Option (List Char)}
    (read : fraction? cs = some (fraction, rest)) :
    (∀ digits ∈ fraction, AreDigits digits) ∧ cs = fractionChars fraction ++ rest := by
  unfold fraction? at read
  split at read
  · simp only [Option.bind_eq_bind, Option.bind_eq_some_iff] at read
    obtain ⟨⟨digits, left⟩, found, same⟩ := read
    cases same
    obtain ⟨are, rfl⟩ := digits?_sound found
    exact ⟨fun _ same => Option.some.inj same ▸ are, rfl⟩
  · cases read
    exact ⟨nofun, rfl⟩

theorem exponent?_sound {exponent : Option (Bool × List Char)}
    (read : exponent? cs = some (exponent, rest)) :
    (∀ e ∈ exponent, AreDigits e.2) ∧
      ∃ core, ExponentSpelled exponent core ∧ cs = core ++ rest := by
  unfold exponent? at read
  split at read
  · next mark more =>
    split at read
    · next marked =>
      simp only [Option.bind_eq_bind, Option.bind_eq_some_iff] at read
      obtain ⟨⟨digits, left⟩, found, same⟩ := read
      cases same
      obtain ⟨are, split⟩ := digits?_sound found
      have marked : mark = 'e' ∨ mark = 'E' := by simpa using marked
      refine ⟨fun _ same => Option.some.inj same ▸ are, ?_⟩
      split at split <;> subst split
      · exact ⟨_, .minus marked, rfl⟩
      · exact ⟨_, .plus marked, rfl⟩
      · exact ⟨_, .bare marked, rfl⟩
    · cases read
      exact ⟨nofun, [], .absent, rfl⟩
  · cases read
    exact ⟨nofun, [], .absent, rfl⟩

theorem numeral?_sound {n : Numeral} (read : numeral? cs = some (n, rest)) :
    ∃ core, n.Spelled core ∧ cs = core ++ rest := by
  simp only [numeral?, Option.bind_eq_bind, Option.bind_eq_some_iff] at read
  obtain ⟨⟨digits, _⟩, whole, ⟨fraction, _⟩, point, ⟨exponent, _⟩, scale, same⟩ := read
  cases same
  obtain ⟨are, compact, behindSign⟩ := whole?_sound whole
  obtain ⟨fractional, behindWhole⟩ := fraction?_sound point
  obtain ⟨exponential, core, spelled, behindFraction⟩ := exponent?_sound scale
  subst behindFraction behindWhole
  refine ⟨_, ⟨⟨are, compact, fractional, exponential⟩, core, spelled, rfl⟩, ?_⟩
  -- The sign, if there is one, stands in front of the digits.
  split at behindSign <;> simpa using behindSign

theorem digits?_append {digits : List Char} (are : AreDigits digits) (ends : NoDigit rest) :
    digits? (digits ++ rest) = some (digits, rest) := by
  obtain ⟨nonempty, each⟩ := are
  have taken : (digits ++ rest).takeWhile Char.isDigit = digits := by
    rw [List.takeWhile_append_of_pos each]
    cases rest with
    | nil => simp
    | cons c more => simp [ends c rfl]
  have dropped : (digits ++ rest).dropWhile Char.isDigit = rest := by
    rw [List.dropWhile_append_of_pos each]
    cases rest with
    | nil => simp
    | cons c more => simp [ends c rfl]
  rw [digits?, taken, dropped]
  cases digits with
  | nil => exact absurd rfl nonempty
  | cons c more => rfl

theorem whole?_append {digits : List Char} (are : AreDigits digits)
    (compact : digits.head? = some '0' → digits = ['0']) (ends : NoDigit rest) :
    whole? (digits ++ rest) = some (digits, rest) := by
  rw [whole?, digits?_append are ends]
  simp only [Option.bind_eq_bind, Option.bind_some]
  split
  next d more => cases compact rfl
  next => rfl

theorem fraction?_append {fraction : Option (List Char)}
    (proper : ∀ digits ∈ fraction, AreDigits digits) (ends : NoDigit rest)
    (point : rest.head? ≠ some '.') :
    fraction? (fractionChars fraction ++ rest) = some (fraction, rest) := by
  cases fraction with
  | none =>
    rw [fractionChars, List.nil_append, fraction?]
    rintro more rfl
    exact point rfl
  | some digits => simp [fractionChars, fraction?, digits?_append (proper _ rfl) ends]

theorem ExponentSpelled.read {exponent : Option (Bool × List Char)}
    (spelled : ExponentSpelled exponent cs) (proper : ∀ e ∈ exponent, AreDigits e.2)
    (ends : Ends rest) : exponent? (cs ++ rest) = some (exponent, rest) := by
  have read (e) (same : exponent = some e) :=
    digits?_append (proper e same) (fun c first => (ends c first).1)
  cases spelled with
  | absent =>
    cases rest with
    | nil => rfl
    | cons c more =>
      obtain ⟨-, -, small, capital⟩ := ends c rfl
      simp [exponent?, small, capital]
  | minus marked | plus marked => simp [exponent?, marked, read _ rfl]
  | @bare mark digits marked =>
    obtain ⟨nonempty, each⟩ := proper _ rfl
    have read := read _ rfl
    cases digits with
    | nil => exact absurd rfl nonempty
    | cons d others =>
      have digit := each d List.mem_cons_self
      have notMinus : d ≠ '-' := by
        rintro rfl
        cases digit
      have notPlus : d ≠ '+' := by
        rintro rfl
        cases digit
      simp only [List.cons_append] at read
      simp [exponent?, marked, notMinus, notPlus, read]

/-- What is written after the whole digits does not lengthen them. -/
theorem noDigit_parts (fraction : Option (List Char)) {exponent : Option (Bool × List Char)}
    (spelled : ExponentSpelled exponent cs) (ends : Ends rest) :
    NoDigit (fractionChars fraction ++ (cs ++ rest)) ∧ NoDigit (cs ++ rest) ∧
      (cs ++ rest).head? ≠ some '.' := by
  have after : NoDigit (cs ++ rest) ∧ (cs ++ rest).head? ≠ some '.' := by
    cases spelled with
    | absent => exact ⟨fun c first => (ends c first).1, fun first => (ends '.' first).2.1 rfl⟩
    | minus marked | plus marked | bare marked => rcases marked with rfl | rfl <;> simp [NoDigit]
  refine ⟨?_, after⟩
  cases fraction with
  | none => exact after.1
  | some digits => simp [fractionChars, NoDigit]

theorem Numeral.Spelled.read {n : Numeral} (spelled : n.Spelled cs) (ends : Ends rest) :
    numeral? (cs ++ rest) = some (n, rest) := by
  obtain ⟨proper, core, scale, rfl⟩ := spelled
  obtain ⟨afterWhole, afterFraction, point⟩ := noDigit_parts n.fraction scale ends
  have whole := whole?_append proper.whole proper.compact afterWhole
  have fraction := fraction?_append proper.fraction afterFraction point
  have exponent := scale.read proper.exponent ends
  simp only [List.append_assoc]
  obtain ⟨negative, digits, _, _⟩ := n
  cases negative with
  | true => simp [numeral?, whole, fraction, exponent]
  | false =>
    obtain ⟨c, more, rfl⟩ := List.exists_cons_of_ne_nil proper.whole.1
    have sign : c ≠ '-' := by
      rintro rfl
      exact absurd (proper.whole.2 '-' List.mem_cons_self) (by decide)
    simp only [Bool.false_eq_true, if_false, List.nil_append, List.cons_append] at whole ⊢
    simp [numeral?, sign, whole, fraction, exponent]

end Entitlement.Json
