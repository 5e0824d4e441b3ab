import Entitlement.Yaml.Scalar
import Entitlement.Yaml.Tag

/-!
# Tokens of a YAML text

The marks that a text consists of. Indentation becomes tokens that begin and end blocks. A key is
often known as such only when its colon is met; so the places of possible keys are kept, one for
each level of brackets, and the tokens that a key needs are put in at its place afterwards. A
possible key is given up when its line ends or after 1024 octets.
-/

namespace Entitlement.Yaml

inductive Token where
  | streamEnd
  | directive (d : Directive)
  | documentStart
  | documentEnd
  | blockSequenceStart
  | blockMappingStart
  | blockEnd
  | flowSequenceStart
  | flowSequenceEnd
  | flowMappingStart
  | flowMappingEnd
  | blockEntry
  | flowEntry
  | key
  | value
  | alias (name : List Char)
  | anchor (name : List Char)
  | tag (handle suffix : List Char)
  | scalar (style : Style) (text : List Char)
deriving DecidableEq, Repr, Inhabited

/-- A place at which a key may have begun. -/
structure PossibleKey where
  -- How many tokens stand before it.
  place : Nat
  start : Cursor
  -- Without a key here the text is malformed.
  needed : Bool
deriving DecidableEq, Repr, Inhabited

structure Scan where
  cursor : Cursor
  tokens : List Token := []
  -- The column of the surrounding block; negative outside of any.
  indent : Int := -1
  -- The columns of the blocks around it.
  outer : List Int := []
  -- The possible keys, that of the innermost brackets first.
  keys : List (Option PossibleKey) := [none]
  keyAllowed : Bool := true
deriving DecidableEq, Repr, Inhabited

namespace Scan

/-- Within brackets, where indentation does not matter. -/
def inFlow (s : Scan) : Bool := 1 < s.keys.length

def column (s : Scan) : Int := s.cursor.column

def emit (t : Token) (s : Scan) : Scan := { s with tokens := s.tokens ++ [t] }

def emitAt (place : Nat) (t : Token) (s : Scan) : Scan :=
  { s with tokens := s.tokens.take place ++ t :: s.tokens.drop place }

def emitMark (n : Nat) (t : Token) (s : Scan) : Scan :=
  { s.emit t with cursor := s.cursor.skip n }

/-- Passes blanks, comments and line ends. -/
def skipToToken : Nat → Scan → Scan
  | 0, s => s
  | steps + 1, s =>
    -- A byte order mark in front of a line is passed too, and takes a column.
    let cursor :=
      if s.cursor.column = 0 && s.cursor.starts '\ufeff' then s.cursor.skip 1 else s.cursor
    -- A tab counts as a blank only where it cannot be taken for indentation.
    let tabs := s.inFlow || !s.keyAllowed
    let cursor := (cursor.skipWhile fun c => c == ' ' || (tabs && c == '\t')).skipComment
    if cursor.head?.any isBreak then
      skipToToken steps
        { s with cursor := cursor.skipBreak, keyAllowed := s.keyAllowed || !s.inFlow }
    else { s with cursor }

def unindent (column : Int) : Nat → Scan → Scan
  | 0, s => s
  | levels + 1, s =>
    if !s.inFlow && column < s.indent then
      unindent column levels
        { s.emit .blockEnd with indent := s.outer.headD (-1), outer := s.outer.drop 1 }
    else s

def unindentTo (column : Int) (s : Scan) : Scan := s.unindent column (s.outer.length + 1)

def indentTo (column : Int) (place : Nat) (t : Token) (s : Scan) : Scan :=
  if !s.inFlow && s.indent < column then
    { s.emitAt place t with indent := column, outer := s.indent :: s.outer }
  else s

/-- Gives up the possible keys that are too long ago. -/
def forgetStale (s : Scan) : Option Scan := do
  let keys ← s.keys.mapM fun
    | none => some none
    | some k =>
      if k.start.line < s.cursor.line || k.start.index + 1024 < s.cursor.index then
        if k.needed then none else some none
      else some (some k)
  return { s with keys }

def dropKey (s : Scan) : Option Scan :=
  match s.keys with
  | some k :: outer => if k.needed then none else some { s with keys := none :: outer }
  | _ => some s

def noteKey (s : Scan) : Option Scan := do
  if !s.keyAllowed then return s
  let needed := !s.inFlow && s.indent == s.column
  let s ← s.dropKey
  return { s with keys := some ⟨s.tokens.length, s.cursor, needed⟩ :: s.keys.drop 1 }

def allowKey (allowed : Bool) (s : Scan) : Scan := { s with keyAllowed := allowed }

/-! ### One token -/

def endStream (s : Scan) : Option Scan := do
  let s ← (s.unindentTo (-1)).dropKey
  return (s.emit .streamEnd).allowKey false

def readDirective (s : Scan) : Option Scan := do
  let s ← (s.unindentTo (-1)).dropKey
  let (d, cursor) ← directive? (s.cursor.skip 1)
  return { s.emit (.directive d) with cursor, keyAllowed := false }

def readDocumentMarker (t : Token) (s : Scan) : Option Scan := do
  let s ← (s.unindentTo (-1)).dropKey
  return (s.emitMark 3 t).allowKey false

def openFlow (t : Token) (s : Scan) : Option Scan := do
  let s ← s.noteKey
  return ({ s with keys := none :: s.keys }.emitMark 1 t).allowKey true

def closeFlow (t : Token) (s : Scan) : Option Scan := do
  let s ← s.dropKey
  let keys := if s.inFlow then s.keys.drop 1 else s.keys
  return ({ s with keys }.emitMark 1 t).allowKey false

def readFlowEntry (s : Scan) : Option Scan := do
  let s ← s.dropKey
  return (s.emitMark 1 .flowEntry).allowKey true

def openBlock (t : Token) (s : Scan) : Option Scan :=
  if s.inFlow then some s
  else if s.keyAllowed then some (s.indentTo s.column s.tokens.length t)
  else none

def readBlockEntry (s : Scan) : Option Scan := do
  let s ← (← s.openBlock .blockSequenceStart).dropKey
  return (s.emitMark 1 .blockEntry).allowKey true

def readKey (s : Scan) : Option Scan := do
  let s ← (← s.openBlock .blockMappingStart).dropKey
  return (s.emitMark 1 .key).allowKey !s.inFlow

def readValue (s : Scan) : Option Scan :=
  match s.keys with
  -- The colon makes the possible key one.
  | some k :: outer =>
    let s := s.emitAt k.place .key
    let s := s.indentTo k.start.column k.place .blockMappingStart
    some (({ s with keys := none :: outer }.emitMark 1 .value).allowKey false)
  | _ => do
    let s ← s.openBlock .blockMappingStart
    return (s.emitMark 1 .value).allowKey !s.inFlow

def readPart (read : Cursor → Option (Token × Cursor)) (s : Scan) : Option Scan := do
  let s ← s.noteKey
  let (t, cursor) ← read s.cursor
  return { s.emit t with cursor, keyAllowed := false }

def readAnchor (form : List Char → Token) : Scan → Option Scan :=
  readPart fun c => do
    let (name, c) ← anchorName? (c.skip 1)
    return (form name, c)

def readTag (s : Scan) : Option Scan :=
  s.readPart fun c => do
    let ((handle, suffix), c) ← tag? s.inFlow c
    return (.tag handle suffix, c)

def readQuoted (style : Style) : Scan → Option Scan :=
  readPart fun c => do
    let steps := c.rest.length + 1
    let (text, c) ←
      if style = .single then singleScalar steps [] (c.skip 1) else doubleScalar steps [] (c.skip 1)
    return (.scalar style text, c)

def readBlock (style : Style) (s : Scan) : Option Scan := do
  let s ← s.dropKey
  let (text, cursor) ← blockScalar (style = .folded) s.indent (s.cursor.skip 1)
  return { s.emit (.scalar style text) with cursor, keyAllowed := true }

def readPlain (s : Scan) : Option Scan := do
  let s ← s.noteKey
  let (text, broken, cursor) ←
    plainScalar s.inFlow (s.indent + 1) (s.cursor.rest.length + 1) [] {} s.cursor
  -- After a line end a key may begin.
  return { s.emit (.scalar .plain text) with cursor, keyAllowed := broken }

def isIndicator (c : Char) : Bool := "-?:,[]\x7b\x7d#&*!|>'\x22%@\x60".toList.contains c

def startsPlain (s : Scan) (c : Char) : Bool :=
  let next := s.cursor.at? 1
  -- A hyphen, a question mark or a colon may begin a plain scalar when no blank follows.
  !(isBlank c || isIndicator c) || (c == '-' && !next.any isBlank) ||
    (!s.inFlow && (c == '?' || c == ':') && !ends next)

/-- Reads the next token, and the ends of blocks before it. -/
def next (s : Scan) : Option Scan := do
  let s ← (s.skipToToken (s.cursor.rest.length + 1)).forgetStale
  let s := s.unindentTo s.column
  match s.cursor.head? with
  | none => s.endStream
  | some c =>
    let alone := ends (s.cursor.at? 1)
    if s.cursor.column = 0 && c = '%' then s.readDirective
    else if s.cursor.atMarker '-' then s.readDocumentMarker .documentStart
    else if s.cursor.atMarker '.' then s.readDocumentMarker .documentEnd
    else if c = '[' then s.openFlow .flowSequenceStart
    else if c = '\x7b' then s.openFlow .flowMappingStart
    else if c = ']' then s.closeFlow .flowSequenceEnd
    else if c = '\x7d' then s.closeFlow .flowMappingEnd
    else if c = ',' then s.readFlowEntry
    else if c = '-' && alone then s.readBlockEntry
    else if c = '?' && (s.inFlow || alone) then s.readKey
    else if c = ':' && (s.inFlow || alone) then s.readValue
    else if c = '*' then s.readAnchor .alias
    else if c = '&' then s.readAnchor .anchor
    else if c = '!' then s.readTag
    else if c = '|' && !s.inFlow then s.readBlock .literal
    else if c = '>' && !s.inFlow then s.readBlock .folded
    else if c = singleQuote then s.readQuoted .single
    else if c = '\x22' then s.readQuoted .double
    else if s.startsPlain c then s.readPlain
    else none

def finish : Nat → Scan → Option (List Token)
  | 0, _ => none
  | steps + 1, s => do
    let s ← s.next
    if s.tokens.getLast? = some .streamEnd then return s.tokens else finish steps s

end Scan

def Token.ofText? (text : String) : Option (List Token) :=
  let cs := text.toList
  if cs.all isPrintable then
    Scan.finish (cs.length + 2) { cursor := { rest := cs } }
  else none

end Entitlement.Yaml
