import Entitlement.Text.Digit
import Entitlement.Yaml.Cursor

/-!
# Tags, anchors and directives of a YAML text

A tag is written with a handle and a suffix; percent signs in it introduce octets, and a zero octet
ends it. A directive names the version of the language or a handle for tags.
-/

namespace Entitlement.Yaml

def octet? (c : Cursor) : Option (Nat × Cursor) :=
  match c.rest with
  | '%' :: a :: b :: _ => (Text.number? 16 [a, b]).map (·, c.skip 3)
  | _ => none

def octetCount? (octet : Nat) : Option Nat :=
  if octet < 0x80 then some 1
  else if octet < 0xC0 then none
  else if octet < 0xE0 then some 2
  else if octet < 0xF0 then some 3
  else if octet < 0xF8 then some 4
  else none

def furtherOctets : Nat → List Char → Cursor → Option (List Char × Cursor)
  | 0, taken, c => some (taken, c)
  | count + 1, taken, c => do
    let (octet, c) ← octet? c
    if octet < 0x80 || 0xC0 ≤ octet then none
    else furtherOctets count (taken ++ [Char.ofNat octet]) c

/-- The octets of one character, each kept as one character. -/
def escapedOctets (c : Cursor) : Option (List Char × Cursor) := do
  let (first, c) ← octet? c
  let count ← octetCount? first
  furtherOctets (count - 1) [Char.ofNat first] c

/-- Brackets and commas may stand in a tag only where it is given in full. -/
def isTagChar (full : Bool) (c : Char) : Bool :=
  isWordChar c || ";/?:@&=+$.%!~*'()".toList.contains c || (full && ",[]".toList.contains c)

def tagChars (full : Bool) : Nat → List Char → Cursor → Option (List Char × Cursor)
  | 0, _, _ => none
  | steps + 1, taken, c =>
    match c.head? with
    | none => some (taken, c)
    | some x =>
      if !isTagChar full x then some (taken, c)
      else if x = '%' then do
        let (octets, c) ← escapedOctets c
        tagChars full steps (taken ++ octets) c
      else tagChars full steps (taken ++ [x]) (c.skip 1)

def tagHandle? (c : Cursor) : Option (List Char × Cursor) := do
  if !c.starts '!' then none
  let (word, c) := (c.skip 1).takeWhile isWordChar
  if c.starts '!' then return ('!' :: (word ++ ['!']), c.skip 1) else return ('!' :: word, c)

def beforeZero (cs : List Char) : List Char := cs.takeWhile (· ≠ '\x00')

def fullTag? (c : Cursor) : Option ((List Char × List Char) × Cursor) := do
  let (suffix, c) ← tagChars true (c.rest.length + 1) [] (c.skip 2)
  if suffix.isEmpty || !c.starts '>' then none
  return (([], beforeZero suffix), c.skip 1)

/-- A tag by a handle. What is no handle after all belongs to the suffix. -/
def shortTag? (c : Cursor) : Option ((List Char × List Char) × Cursor) := do
  let (handle, c) ← tagHandle? c
  if 1 < handle.length && handle.getLast? = some '!' then
    let (suffix, c) ← tagChars false (c.rest.length + 1) [] c
    if suffix.isEmpty then none
    return ((handle, beforeZero suffix), c)
  else
    let (written, c) ← tagChars false (c.rest.length + 1) (handle.drop 1) c
    let suffix := beforeZero written
    return (if suffix.isEmpty then ([], ['!']) else (['!'], suffix), c)

/-- The handle and the suffix of a tag. A tag in full has an empty handle. -/
def tag? (flow : Bool) (c : Cursor) : Option ((List Char × List Char) × Cursor) := do
  let (tag, c) ← if c.at? 1 = some '<' then fullTag? c else shortTag? c
  if (flow && c.starts ',') || ends c.head? then return (tag, c) else none

def anchorName? (c : Cursor) : Option (List Char × Cursor) :=
  let (name, c) := c.takeWhile isWordChar
  if name.isEmpty then none
  else if ends c.head? || c.head?.any "?:,]\x7d%@\x60".toList.contains then some (name, c)
  else none

inductive Directive where
  | version (major minor : Nat)
  | tagHandle (handle start : List Char)
deriving DecidableEq, Repr, Inhabited

def versionNumber? (c : Cursor) : Option (Nat × Cursor) :=
  let (digits, c) := c.takeWhile Char.isDigit
  if digits.isEmpty || 9 < digits.length then none
  else some (Nat.ofDigitChars 10 digits 0, c)

def versionDirective? (c : Cursor) : Option (Directive × Cursor) := do
  let (major, c) ← versionNumber? (c.skipWhile isBlank)
  if !c.starts '.' then none
  let (minor, c) ← versionNumber? (c.skip 1)
  return (.version major minor, c)

def handleDirective? (c : Cursor) : Option (Directive × Cursor) := do
  let (handle, c) ← tagHandle? (c.skipWhile isBlank)
  if handle ≠ ['!'] && handle.getLast? ≠ some '!' then none
  if !c.head?.any isBlank then none
  let (start, c) ← tagChars true (c.rest.length + 1) [] (c.skipWhile isBlank)
  if start.isEmpty || !ends c.head? then none
  return (.tagHandle handle (beforeZero start), c)

/-- A directive after its percent sign, with the rest of its line. No other names are known. -/
def directive? (c : Cursor) : Option (Directive × Cursor) := do
  let (name, c) := c.takeWhile isWordChar
  if !ends c.head? then none
  let (directive, c) ←
    if name = ['Y', 'A', 'M', 'L'] then versionDirective? c
    else if name = ['T', 'A', 'G'] then handleDirective? c
    else none
  return (directive, ← c.finishLine)

end Entitlement.Yaml
