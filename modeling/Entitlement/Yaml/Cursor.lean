/-!
# Places in a YAML text

The text still to be read, with the line and the column of its first character. Lines end with a
line feed, a carriage return, both together, a next-line character or one of the two Unicode
separators; all but the separators count as a line feed within a scalar.
-/

namespace Entitlement.Yaml

structure Cursor where
  rest : List Char
  -- How many octets of UTF-8 were passed.
  index : Nat := 0
  line : Nat := 0
  column : Nat := 0
deriving DecidableEq, Repr, Inhabited

def isBlank (c : Char) : Bool := c == ' ' || c == '\t'

def isSeparator (c : Char) : Bool := c == '\u2028' || c == '\u2029'

def isBreak (c : Char) : Bool := c == '\n' || c == '\r' || c == '\u0085' || isSeparator c

def isWordChar (c : Char) : Bool := c.isAlphanum || c == '_' || c == '-'

def isPrintable (c : Char) : Bool :=
  let n := c.toNat
  n == 0x09 || n == 0x0A || n == 0x0D || (0x20 ≤ n && n ≤ 0x7E) || n == 0x85 ||
    (0xA0 ≤ n && n ≤ 0xFFFD) || 0x10000 ≤ n

/-- A blank, a line end or the end of the text. -/
def ends : Option Char → Bool
  | none => true
  | some c => isBlank c || isBreak c

def octets (cs : List Char) : Nat := cs.foldl (fun n c => n + c.utf8Size) 0

namespace Cursor

def head? (c : Cursor) : Option Char := c.rest.head?

def at? (n : Nat) (c : Cursor) : Option Char := c.rest[n]?

def starts (c : Cursor) (wanted : Char) : Bool := c.head? == some wanted

def skip (n : Nat) (c : Cursor) : Cursor :=
  { c with
    rest := c.rest.drop n, index := c.index + octets (c.rest.take n), column := c.column + n }

/-- Passes a line end, if there is one, and tells what it counts as. -/
def takeBreak (c : Cursor) : List Char × Cursor :=
  match c.rest with
  | '\r' :: '\n' :: rest =>
    (['\n'], { rest, index := c.index + 2, line := c.line + 1, column := 0 })
  | b :: rest =>
    if isBreak b then
      ([if isSeparator b then b else '\n'],
        { rest, index := c.index + b.utf8Size, line := c.line + 1, column := 0 })
    else ([], c)
  | [] => ([], c)

def skipBreak (c : Cursor) : Cursor := c.takeBreak.2

def takeWhile (test : Char → Bool) (c : Cursor) : List Char × Cursor :=
  let taken := c.rest.takeWhile test
  (taken, c.skip taken.length)

def skipWhile (test : Char → Bool) (c : Cursor) : Cursor := (c.takeWhile test).2

def skipComment (c : Cursor) : Cursor :=
  if c.starts '#' then c.skipWhile fun x => !isBreak x else c

/-- Passes blanks and a comment; what follows has to be the end of the line, which is passed too. -/
def finishLine (c : Cursor) : Option Cursor :=
  let c := (c.skipWhile isBlank).skipComment
  match c.head? with
  | none => some c
  | some x => if isBreak x then some c.skipBreak else none

/-- Three times the character at the beginning of a line, and then a blank or a line end. -/
def atMarker (mark : Char) (c : Cursor) : Bool :=
  c.column == 0 && c.rest.take 3 == [mark, mark, mark] && ends (c.at? 3)

def atDocumentMarker (c : Cursor) : Bool := c.atMarker '-' || c.atMarker '.'

end Cursor

end Entitlement.Yaml
