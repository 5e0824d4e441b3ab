import Entitlement.Text.Digit
import Entitlement.Yaml.Node

/-!
# Entries of a YAML document

A document read as one mapping: its keys and values with the aliases resolved, as far as single
values go. Anchors are numbered by how many names were known before, and an alias stands for the
last node with the number that its name has where the alias is written. A name that is given to a
second node takes a new number, which the next new name then shares.
-/

namespace Entitlement.Yaml

/-- What a reader of single values sees of a node. -/
inductive Content where
  | scalar (s : Scalar)
  | collection
deriving DecidableEq, Repr, Inhabited

/-- The anchors met so far: the numbers of the names and the nodes of the numbers, the newest
first. -/
structure Anchors where
  numbers : List (List Char × Nat) := []
  contents : List (Nat × Content) := []
deriving DecidableEq, Repr, Inhabited

namespace Anchors

def size (a : Anchors) : Nat := (a.numbers.map (·.1)).eraseDups.length

def bind (anchor : Option (List Char)) (content : Content) (a : Anchors) : Anchors :=
  match anchor with
  | none => a
  | some name =>
    { numbers := (name, a.size) :: a.numbers, contents := (a.size, content) :: a.contents }

end Anchors

/-- A node where it is written, or the number of the anchor that an alias means. -/
inductive Reference where
  | here (content : Content)
  | numbered (number : Nat)
deriving DecidableEq, Repr, Inhabited

def Reference.resolve (a : Anchors) : Reference → Option Content
  | here content => some content
  | numbered number => a.contents.lookup number

namespace Node

mutual

/-- Goes through a node in the order of the text. An alias needs an anchor before it. -/
def number : Node → Anchors → Option (Reference × Anchors)
  | .alias name, a => (a.numbers.lookup name).map fun n => (.numbered n, a)
  | .scalar anchor s, a => some (.here (.scalar s), a.bind anchor (.scalar s))
  | .sequence anchor items, a => do
    let a ← numberItems items (a.bind anchor .collection)
    return (.here .collection, a)
  | .mapping anchor entries, a => do
    let (_, a) ← numberEntries entries (a.bind anchor .collection)
    return (.here .collection, a)

def numberItems : List Node → Anchors → Option Anchors
  | [], a => some a
  | item :: rest, a => do
    let (_, a) ← number item a
    numberItems rest a

def numberEntries : List (Node × Node) → Anchors → Option (List (Reference × Reference) × Anchors)
  | [], a => some ([], a)
  | (key, value) :: rest, a => do
    let (key, a) ← number key a
    let (value, a) ← number value a
    let (others, a) ← numberEntries rest a
    return ((key, value) :: others, a)

end

/-- The entries of a mapping. -/
def entries? : Node → Option (List (Content × Content))
  | .mapping anchor entries => do
    let (entries, a) ← numberEntries entries (({} : Anchors).bind anchor .collection)
    entries.mapM fun (key, value) => return (← key.resolve a, ← value.resolve a)
  -- Nothing written at all has none.
  | .scalar _ s => if s.style = .plain ∧ s.text = [] then some [] else none
  | _ => none

end Node

def entriesOf? (text : String) : Option (List (Content × Content)) := do
  match ← Node.ofText? text with
  | none => return []
  | some node => node.entries?

/-! ### Single values -/

namespace Scalar

def isNull (s : Scalar) : Bool := ["null", "Null", "NULL", "~"].contains (String.ofList s.text)

def standardTag (name : String) : List Char := ("tag:yaml.org,2002:" ++ name).toList

/-- Whether a value is given: a plain null or nothing means no value. -/
def isGiven? (s : Scalar) : Option Bool :=
  if s.style ≠ .plain then some true
  else
    match s.tag with
    -- With the null tag only a null may stand there, and with any other tag the text is a value.
    | some tag =>
      if tag = standardTag "null" then (if s.isNull then some false else none) else some true
    | none => some (!s.text.isEmpty && !s.isNull)

def unsigned? (radix : Nat) (digits : List Char) : Option Nat :=
  if digits.isEmpty then none else Text.number? radix digits

def marked? (mark : Char) (radix : Nat) : List Char → Option Nat
  | '0' :: x :: rest => if x = mark then unsigned? radix rest else none
  | _ => none

/-- Digits with a needless zero in front are no number. -/
def paddedDigits : List Char → Bool
  | '0' :: rest => !rest.isEmpty && rest.all Char.isDigit
  | _ => false

/-- A whole number: decimal, or with one of the marks `0x`, `0o` and `0b`. -/
def count? (largest : Nat) (s : Scalar) : Option Nat := do
  -- A quoted text is no number, save for a literal block with the integer tag.
  if s.style ≠ .plain && !(s.style = .literal && s.tag = some (standardTag "int")) then none
  let digits := if s.text.head? = some '+' then s.text.drop 1 else s.text
  let decimal := if paddedDigits digits then none else unsigned? 10 digits
  let n ← marked? 'x' 16 digits <|> marked? 'o' 8 digits <|> marked? 'b' 2 digits <|> decimal
  if n ≤ largest then return n else none

end Scalar

namespace Content

/-- The text of a field; no text where no value is given. -/
def text? : Content → Option (Option String)
  | .scalar s => s.isGiven?.map fun given => if given then some (String.ofList s.text) else none
  | .collection => none

def count? (largest : Nat) : Content → Option (Option Nat)
  | .scalar s => do
    if ← s.isGiven? then (s.count? largest).map some else return none
  | .collection => none

def key? : Content → Option String
  | .scalar s => some (String.ofList s.text)
  | .collection => none

end Content

end Entitlement.Yaml
