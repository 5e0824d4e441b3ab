import Entitlement.Text.Blank
import Entitlement.Text.Digit
import Entitlement.Text.Letter

/-!
# Patterns

Which texts are patterns for the values of fields: regular expressions with groups, classes and
repetitions. Only the form is of interest here. A pattern must match nothing but text, so where it
is read octet by octet it may not name what is no character; and where it is read by characters it
may not ask for the border of a word. A brace opens what only a closing brace could end, and no
pattern holds one.
-/

namespace Entitlement.Pattern

structure Mode where
  -- Blanks and comments are passed over.
  spaced : Bool := false
  -- By characters, not by octets.
  unicode : Bool := true
deriving DecidableEq, Repr, Inhabited

def skipBlanks (comment : Bool) : List Char → List Char
  | [] => []
  | c :: rest =>
    if comment then skipBlanks (c != '\n') rest
    else if Text.isWhiteSpace c then skipBlanks false rest
    else if c == '#' then skipBlanks true rest
    else c :: rest

def Mode.skip (m : Mode) (cs : List Char) : List Char :=
  if m.spaced then skipBlanks false cs else cs

/-! ### Single elements -/

inductive Element where
  -- A character, perhaps given as an octet.
  | char (c : Char) (octet : Bool)
  -- Digits, blanks or word characters, or everything else.
  | set (negated : Bool)
  | category
  | any
  | wordBorder
  -- Another place between characters.
  | border
deriving DecidableEq, Repr, Inhabited

def Element.isAllowed (unicode : Bool) : Element → Bool
  | char c octet => unicode || !(octet && 0x7F < c.toNat)
  | set negated => unicode || !negated
  | category | any => unicode
  | wordBorder => !unicode
  | border => true

def Element.isMember (unicode : Bool) : Element → Bool
  | char c _ => unicode || c.toNat < 0x80
  | set negated => unicode || !negated
  | category => unicode
  | any | wordBorder | border => false

def readNumbered (m : Mode) : Nat → Nat → List Char → Option (Char × List Char)
  | 0, n, cs => if n.isValidChar then some (Char.ofNat n, m.skip cs) else none
  | count + 1, n, cs =>
    match m.skip cs with
    | [] => none
    | c :: rest => do readNumbered m count (16 * n + (← Text.digitValue? 16 c)) rest

def readCategory (m : Mode) (cs : List Char) : Option (Element × List Char) :=
  match m.skip cs with
  | [] => none
  | letter :: rest =>
    if "clmnpsz".toList.contains letter.toLower then some (.category, m.skip rest) else none

/-- What follows a backslash. Signs stand for themselves; letters have meanings or none. -/
def readEscape (m : Mode) : List Char → Option (Element × List Char)
  | [] => none
  | c :: rest =>
    match c with
    | 'x' => (readNumbered m 2 0 rest).map fun (c, rest) => (.char c true, rest)
    | 'u' => (readNumbered m 4 0 rest).map fun (c, rest) => (.char c false, rest)
    | 'U' => (readNumbered m 8 0 rest).map fun (c, rest) => (.char c false, rest)
    | 'p' | 'P' => readCategory m rest
    | 'd' | 's' | 'w' => some (.set false, rest)
    | 'D' | 'S' | 'W' => some (.set true, rest)
    | 'a' => some (.char '\x07' false, rest)
    | 'f' => some (.char '\x0c' false, rest)
    | 't' => some (.char '\t' false, rest)
    | 'n' => some (.char '\n' false, rest)
    | 'r' => some (.char '\r' false, rest)
    | 'v' => some (.char '\x0b' false, rest)
    | 'A' | 'z' => some (.border, rest)
    | 'b' | 'B' | '<' | '>' => some (.wordBorder, rest)
    | _ => if c.isAlphanum || 0x7F < c.toNat then none else some (.char c false, rest)

def readElement (m : Mode) : List Char → Option (Element × List Char)
  | [] => none
  | '\\' :: rest => readEscape m rest
  | '.' :: rest => some (.any, rest)
  | '^' :: rest | '$' :: rest => some (.border, rest)
  | c :: rest => some (.char c false, rest)

/-! ### Nesting -/

def together : List Nat → Nat
  | [] => 0
  | [depth] => depth
  | depths => depths.foldl max 0 + 1

def largestDepth : Nat := 250

/-! ### Classes -/

def namedClasses : List String :=
  ["alnum", "alpha", "ascii", "blank", "cntrl", "digit", "graph", "lower", "print", "punct",
   "space", "upper", "word", "xdigit"]

def namedClass? (cs : List Char) : Option (Bool × List Char) :=
  match cs with
  | ':' :: rest =>
    let negated := rest.head? == some '^'
    let rest := if negated then rest.drop 1 else rest
    let name := rest.takeWhile (· ≠ ':')
    match rest.drop name.length with
    | ':' :: ']' :: rest =>
      if namedClasses.contains (String.ofList name) then some (negated, rest) else none
    | _ => none
  | _ => none

/-- What a class may begin with: a sign that negates it, and then hyphens or a closing bracket that
stand for themselves. Tells how many there are of these. -/
def openClass (m : Mode) (cs : List Char) : Option (List Nat × List Char) :=
  let start := m.skip cs
  let negated := start.head? == some '^'
  let inner := if negated then m.skip (start.drop 1) else start
  let (rest, hyphens) := skipHyphens m inner.length inner []
  if negated && !m.unicode then none
  else if hyphens.isEmpty && rest.head? == some ']' then some ([0], m.skip (rest.drop 1))
  else some (hyphens, rest)
where
  skipHyphens (m : Mode) : Nat → List Char → List Nat → List Char × List Nat
    | steps + 1, '-' :: rest, found => skipHyphens m steps (m.skip rest) (0 :: found)
    | _, cs, found => (cs, found)

def readMember (m : Mode) : List Char → Option (Element × List Char)
  | [] => none
  | '\\' :: rest => readEscape m rest
  | c :: rest => some (.char c false, rest)

/-- One element of a class, or a range from one character to another that does not precede it. -/
def readRange (m : Mode) (cs : List Char) : Option (List Char) := do
  let (first, rest) ← readMember m cs
  if !first.isMember m.unicode then none
  match m.skip rest with
  | [] => none
  | '-' :: others =>
    let next := m.skip others
    if next.head? == some ']' || next.head? == some '-' then return '-' :: others
    let (last, rest) ← readMember m next
    match first, last with
    | .char low _, .char high _ =>
      if last.isMember m.unicode && !(high.toNat < low.toNat) then return rest else none
    | _, _ => none
  | rest => return rest

def classOperator? : List Char → Option (List Char)
  | '&' :: '&' :: rest | '-' :: '-' :: rest | '~' :: '~' :: rest => some rest
  | _ => none

/-- A class up to its closing bracket, and how deeply it is nested. `before` is the depth of the
operand in front of the last operator, `members` are those of what follows it. -/
def readClass (m : Mode) : Nat → Option Nat → List Nat → List Char → Option (Nat × List Char)
  | 0, _, _, _ => none
  | steps + 1, before, members, cs =>
    let cs := m.skip cs
    let operand := match before with
      | none => together members
      | some depth => max depth (together members) + 1
    match classOperator? cs with
    | some rest => readClass m steps (some operand) [] rest
    | none =>
      match cs with
      | [] => none
      | ']' :: rest => some (operand + 1, rest)
      | '[' :: rest =>
        match namedClass? rest with
        | some (negated, rest) =>
          if negated && !m.unicode then none else readClass m steps before (0 :: members) rest
        | none => do
          let (inner, rest) ← openClass m rest
          let (depth, rest) ← readClass m steps none inner rest
          readClass m steps before (depth :: members) rest
      | _ => do readClass m steps before (0 :: members) (← readRange m cs)

/-! ### Groups -/

structure State where
  rest : List Char
  mode : Mode := {}
  -- The names of groups so far.
  names : List (List Char) := []
deriving DecidableEq, Repr, Inhabited

/-- Letters that switch the mode, each at most once, and a hyphen before those that are switched
off; they end before a colon or a parenthesis. -/
def readSwitches (seen : List Char) : List Char → Option (List Char × List Char)
  | [] => none
  | c :: rest =>
    if c == ':' || c == ')' then
      if seen.getLast? == some '-' then none else some (seen, c :: rest)
    else if "-imsUuRx".toList.contains c && !seen.contains c then readSwitches (seen ++ [c]) rest
    else none

def Mode.switch (m : Mode) (switches : List Char) : Mode :=
  let on := switches.takeWhile (· ≠ '-')
  let off := switches.drop on.length
  { spaced := on.contains 'x' || (m.spaced && !off.contains 'x'),
    unicode := on.contains 'u' || (m.unicode && !off.contains 'u') }

/-- A letter or an underscore, and then also numerals, points and brackets. -/
def isGroupName : List Char → Bool
  | [] => false
  | first :: rest =>
    (first == '_' || Text.isLetter first) &&
      rest.all fun c => "_.[]".toList.contains c || Text.isLetterOrNumeral c

inductive Opening where
  -- A group, up to its end.
  | group (s : State)
  -- Switches for what follows.
  | switches (s : State)
deriving DecidableEq, Repr, Inhabited

/-- A name of its own for a group, up to the angle bracket. -/
def State.readName (s : State) (cs : List Char) : Option Opening :=
  let name := cs.takeWhile (· ≠ '>')
  let rest := cs.drop name.length
  if rest.isEmpty || !isGroupName name || s.names.contains name then none
  else some (.group { s with rest := rest.drop 1, names := name :: s.names })

/-- What follows an opening parenthesis. A pattern cannot look around. -/
def State.open (s : State) : Option Opening :=
  match s.mode.skip s.rest with
  | '?' :: '=' :: _ | '?' :: '!' :: _ | '?' :: '<' :: '=' :: _ | '?' :: '<' :: '!' :: _ => none
  | '?' :: 'P' :: '<' :: rest | '?' :: '<' :: rest => s.readName rest
  | '?' :: rest => do
    let (switches, rest) ← readSwitches [] rest
    let switched := { s with rest := rest.drop 1, mode := s.mode.switch switches }
    if rest.head? = some ':' then return .group switched
    else if switches.isEmpty then none
    else return .switches switched
  | rest => some (.group { s with rest })

/-! ### Patterns -/

/-- Alternatives up to the end of their group, and how deeply they are nested. `earlier` are the
alternatives so far, and `parts` those of the last one, the newest first; switches cannot be
repeated. -/
def readAlternatives : Nat → List Nat → List (Option Nat) → State → Option (Nat × State)
  | 0, _, _, _ => none
  | steps + 1, earlier, parts, s =>
    let all := earlier ++ [together (parts.map (·.getD 0))]
    match s.mode.skip s.rest with
    | [] => some (together all, { s with rest := [] })
    | ')' :: rest => some (together all, { s with rest := ')' :: rest })
    | '|' :: rest => readAlternatives steps all [] { s with rest }
    | '(' :: rest => do
      match ← { s with rest }.open with
      | .switches s => readAlternatives steps earlier (none :: parts) s
      | .group inner =>
        let (depth, inner) ← readAlternatives steps [] [] inner
        if inner.rest.isEmpty then none
        readAlternatives steps earlier (some (depth + 1) :: parts)
          { s with rest := inner.rest.drop 1, names := inner.names }
    | '[' :: rest => do
      let (members, rest) ← openClass s.mode rest
      let (depth, rest) ← readClass s.mode steps none members rest
      readAlternatives steps earlier (some depth :: parts) { s with rest }
    | '\x7b' :: _ => none
    | c :: rest =>
      if c == '?' || c == '*' || c == '+' then
        match parts with
        | some depth :: parts =>
          let rest := if rest.head? == some '?' then rest.drop 1 else rest
          readAlternatives steps earlier (some (depth + 1) :: parts) { s with rest }
        | _ => none
      else do
        let (e, rest) ← readElement s.mode (c :: rest)
        if !e.isAllowed s.mode.unicode then none
        readAlternatives steps earlier (some 0 :: parts) { s with rest }

end Pattern

def isPattern (text : List Char) : Bool :=
  match Pattern.readAlternatives (text.length + 1) [] [] { rest := text } with
  | some (depth, s) => s.rest.isEmpty && !(Pattern.largestDepth < depth)
  | none => false

end Entitlement
