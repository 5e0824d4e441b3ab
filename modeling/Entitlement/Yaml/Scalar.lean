import Entitlement.Text.Digit
import Entitlement.Yaml.Cursor

/-!
# Scalars of a YAML text

Plain, quoted and block scalars. Where a scalar goes over several lines, a single line end becomes
a space and further ones stay; a block scalar with `|` keeps its lines.
-/

namespace Entitlement.Yaml

inductive Style where
  | plain
  | single
  | double
  | literal
  | folded
deriving DecidableEq, Repr, Inhabited

/-- Blanks and line ends between two parts of a scalar. -/
structure Gap where
  -- The blanks, when no line ends among them.
  blanks : List Char := []
  breaks : List Char := []
deriving DecidableEq, Repr, Inhabited

namespace Gap

def broken (g : Gap) : Bool := !g.breaks.isEmpty

def fold (g : Gap) : List Char :=
  match g.breaks with
  | [] => g.blanks
  | ['\n'] => [' ']
  | '\n' :: others => others
  | breaks => breaks

def read (indent : Int) : Nat → Gap → Cursor → Option (Gap × Cursor)
  | 0, _, _ => none
  | steps + 1, g, c =>
    match c.head? with
    | none => some (g, c)
    | some x =>
      if isBlank x then
        if g.broken then
          -- A tab does not indent a further line.
          if x = '\t' && (c.column : Int) < indent then none else read indent steps g (c.skip 1)
        else read indent steps { g with blanks := g.blanks ++ [x] } (c.skip 1)
      else if isBreak x then
        let (found, c) := c.takeBreak
        read indent steps { blanks := [], breaks := g.breaks ++ found } c
      else some (g, c)

def readKept : Nat → List Char → Cursor → List Char × Cursor
  | 0, kept, c => (kept, c)
  | steps + 1, kept, c =>
    let c := c.skipWhile isBlank
    match c.takeBreak with
    | ([], c) => (kept, c)
    | (found, c) => readKept steps (kept ++ found) c

end Gap

/-! ### Plain scalars -/

def isFlowIndicator (c : Char) : Bool :=
  c == ',' || c == '[' || c == ']' || c == '\x7b' || c == '\x7d'

/-- The characters up to a blank or to an indicator that ends the scalar. -/
def plainRun (flow : Bool) : List Char → Option (List Char)
  | [] => some []
  | c :: rest =>
    if isBlank c || isBreak c then some []
    -- Within brackets a colon must not run into an indicator.
    else if flow && c == ':' && rest.head?.any fun x => isFlowIndicator x || x == '?' then none
    else if (c == ':' && ends rest.head?) || (flow && isFlowIndicator c) then some []
    else (plainRun flow rest).map (c :: ·)

/-- A plain scalar: its text, and whether a line end follows it. -/
def plainScalar (flow : Bool) (indent : Int) :
    Nat → List Char → Gap → Cursor → Option (List Char × Bool × Cursor)
  | 0, _, _, _ => none
  | steps + 1, text, gap, c =>
    if c.atDocumentMarker || c.starts '#' then some (text, gap.broken, c)
    else do
      let run ← plainRun flow c.rest
      if run.isEmpty then return (text, gap.broken, c)
      let text := text ++ gap.fold ++ run
      let c := c.skip run.length
      match c.head? with
      | none => return (text, false, c)
      | some x =>
        if isBlank x || isBreak x then
          let (gap, c) ← Gap.read indent (c.rest.length + 1) {} c
          if !flow && (c.column : Int) < indent then return (text, gap.broken, c)
          else plainScalar flow indent steps text gap c
        else return (text, false, c)

/-! ### Quoted scalars -/

def numberedChar (count : Nat) (rest : List Char) : Option Char := do
  let digits := rest.take count
  if digits.length < count then none
  let n ← Text.number? 16 digits
  if (0xD800 ≤ n && n ≤ 0xDFFF) || 0x10FFFF < n then none else return Char.ofNat n

/-- The character that an escape stands for, and the length of the escape after the backslash. -/
def escape? : List Char → Option (Char × Nat)
  | [] => none
  | 'x' :: rest => (numberedChar 2 rest).map (·, 3)
  | 'u' :: rest => (numberedChar 4 rest).map (·, 5)
  | 'U' :: rest => (numberedChar 8 rest).map (·, 9)
  | c :: _ =>
    let char : Option Char := match c with
      | '0' => some '\x00'
      | 'a' => some '\x07'
      | 'b' => some '\x08'
      | 't' => some '\t'
      | '\t' => some '\t'
      | 'n' => some '\n'
      | 'v' => some '\x0b'
      | 'f' => some '\x0c'
      | 'r' => some '\r'
      | 'e' => some '\x1b'
      | ' ' => some ' '
      | '\x22' => some '\x22'
      | '/' => some '/'
      | '\\' => some '\\'
      | 'N' => some '\u0085'
      | '_' => some '\u00a0'
      | 'L' => some '\u2028'
      | 'P' => some '\u2029'
      | _ => none
    char.map (·, 1)

def singleQuote : Char := '\x27'

/-- A single-quoted scalar after its opening quote. -/
def singleScalar : Nat → List Char → Cursor → Option (List Char × Cursor)
  | 0, _, _ => none
  | steps + 1, text, c =>
    if c.atDocumentMarker then none
    else
      match c.rest with
      | [] => none
      | x :: others =>
        if x = singleQuote then
          -- Only the quote itself is escaped, by another.
          if others.head? = some singleQuote then singleScalar steps (text ++ [x]) (c.skip 2)
          else some (text, c.skip 1)
        else if isBlank x || isBreak x then do
          let (gap, c) ← Gap.read 0 (c.rest.length + 1) {} c
          singleScalar steps (text ++ gap.fold) c
        else singleScalar steps (text ++ [x]) (c.skip 1)

/-- A double-quoted scalar after its opening quote. -/
def doubleScalar : Nat → List Char → Cursor → Option (List Char × Cursor)
  | 0, _, _ => none
  | steps + 1, text, c =>
    if c.atDocumentMarker then none
    else
      match c.rest with
      | [] => none
      | '\x22' :: _ => some (text, c.skip 1)
      | '\\' :: others =>
        -- A backslash also takes back a line end.
        if others.head?.any isBreak then
          let (kept, c) := Gap.readKept (c.rest.length + 1) [] (c.skip 1).skipBreak
          doubleScalar steps (text ++ kept) c
        else do
          let (char, length) ← escape? others
          doubleScalar steps (text ++ [char]) (c.skip (length + 1))
      | x :: _ =>
        if isBlank x || isBreak x then do
          let (gap, c) ← Gap.read 0 (c.rest.length + 1) {} c
          doubleScalar steps (text ++ gap.fold) c
        else doubleScalar steps (text ++ [x]) (c.skip 1)

/-! ### Block scalars -/

/-- What happens to the line ends after the last line. -/
inductive Chomping where
  | strip
  | clip
  | keep
deriving DecidableEq, Repr, Inhabited

structure BlockHeader where
  chomping : Chomping := .clip
  -- The indentation of the lines relative to the surrounding block.
  increment : Option Nat := none
deriving DecidableEq, Repr, Inhabited

namespace BlockHeader

def chomping? : Option Char → Option Chomping
  | some '+' => some .keep
  | some '-' => some .strip
  | _ => none

def increment? (c : Cursor) : Option (Option Nat × Cursor) :=
  match c.head? with
  | none => some (none, c)
  | some x =>
    if x = '0' then none
    else if x.isDigit then some (some (x.toNat - '0'.toNat), c.skip 1)
    else some (none, c)

/-- The two indicators may come in either order. -/
def read (c : Cursor) : Option (BlockHeader × Cursor) := do
  match chomping? c.head? with
  | some chomping =>
    let (increment, c) ← increment? (c.skip 1)
    return ({ chomping, increment }, ← c.finishLine)
  | none =>
    let (increment, c) ← increment? c
    match increment, chomping? c.head? with
    | some _, some chomping => return ({ chomping, increment }, ← (c.skip 1).finishLine)
    | _, _ => return ({ increment }, ← c.finishLine)

end BlockHeader

/-- The empty lines before a line of a block, up to its indentation. -/
def blockGap (around : Int) (indent : Option Nat) :
    Nat → Nat → List Char → Cursor → Option (Nat × List Char × Cursor)
  | 0, _, _, _ => none
  | steps + 1, widest, breaks, c =>
    let within (c : Cursor) : Bool := match indent with
      | none => true
      | some n => c.column < n
    let spaces := (c.rest.takeWhile (· == ' ')).length
    let c := match indent with
      | none => c.skip spaces
      | some n => c.skip (min spaces (n - c.column))
    let widest := max widest c.column
    if within c && c.starts '\t' then none
    else if c.head?.any isBreak then
      let (found, c) := c.takeBreak
      blockGap around indent steps widest (breaks ++ found) c
    else
      let indent := match indent with
        | some n => n
        -- The widest of the empty lines sets the indentation, beyond that of the surrounding block.
        | none => max 1 (max widest (around + 1).toNat)
      some (indent, breaks, c)

structure BlockText where
  text : List Char := []
  -- The end of the last line.
  leading : List Char := []
  -- The empty lines after it.
  trailing : List Char := []
  -- The last line began with a blank.
  spaced : Bool := false
deriving DecidableEq, Repr, Inhabited

/-- The lines of a block at their indentation. -/
def blockLines (folded : Bool) (around : Int) (indent : Nat) :
    Nat → BlockText → Cursor → Option (BlockText × Cursor)
  | 0, _, _ => none
  | steps + 1, b, c =>
    if c.column = indent && !c.rest.isEmpty then do
      let spaced := c.head?.any isBlank
      -- Folding joins two lines unless one of them begins with a blank.
      let joined :=
        if folded && b.leading == ['\n'] && !b.spaced && !spaced then
          if b.trailing.isEmpty then [' '] else []
        else b.leading
      let (line, c) := c.takeWhile fun x => !isBreak x
      let (leading, c) := c.takeBreak
      let (_, trailing, c) ← blockGap around (some indent) (c.rest.length + 1) 0 [] c
      let text := b.text ++ joined ++ b.trailing ++ line
      blockLines folded around indent steps { text, leading, trailing, spaced } c
    else some (b, c)

/-- A block scalar after its indicator, within a block of indentation `around`. -/
def blockScalar (folded : Bool) (around : Int) (c : Cursor) : Option (List Char × Cursor) := do
  let (header, c) ← BlockHeader.read c
  let wanted := header.increment.map fun n => (max around 0).toNat + n
  let (indent, trailing, c) ← blockGap around wanted (c.rest.length + 1) 0 [] c
  let (b, c) ← blockLines folded around indent (c.rest.length + 1) { trailing } c
  let tail := match header.chomping with
    | .strip => []
    | .clip => b.leading
    | .keep => b.leading ++ b.trailing
  return (b.text ++ tail, c)

end Entitlement.Yaml
