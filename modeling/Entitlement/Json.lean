import Entitlement.Json.Numeral

/-!
# JSON values

A JSON text keeps its members in order and keeps repeated keys. A string whose escapes do not pair
up into characters has no text; it is still a string as far as the grammar goes. A value is sound
when a reader can take in all of it: every string has a text, every number is finite, and the
nesting is not too deep.
-/

namespace Entitlement

inductive Json where
  | null
  | bool (b : Bool)
  | number (n : Json.Numeral)
  -- No text stands for a string with an unpaired surrogate.
  | string (text : Option String)
  | array (items : List Json)
  | object (members : List (Option String × Json))
deriving Repr, Inhabited

namespace Json

def text (s : String) : Json := .string (some s)

def nat (n : Nat) : Json := .number (.ofNat n)

def texts (l : List String) : Json := .array (l.map text)

def record (members : List (String × Json)) : Json :=
  .object (members.map fun (key, value) => (some key, value))

def orNull {α : Type} (form : α → Json) : Option α → Json
  | none => .null
  | some value => form value

/-- A value with more levels than this cannot be taken in. -/
def maxDepth : Nat := 127

mutual

/-- A value of at most `levels` levels, with a text for every string and finite numbers. -/
def soundWithin : Nat → Json → Bool
  | _, .null => true
  | _, .bool _ => true
  | _, .number n => n.isFinite
  | _, .string text => text.isSome
  | 0, .array _ => false
  | levels + 1, .array items => allSound levels items
  | 0, .object _ => false
  | levels + 1, .object members => allMembersSound levels members

def allSound : Nat → List Json → Bool
  | _, [] => true
  | levels, item :: rest => soundWithin levels item && allSound levels rest

def allMembersSound : Nat → List (Option String × Json) → Bool
  | _, [] => true
  | levels, (key, value) :: rest =>
    key.isSome && soundWithin levels value && allMembersSound levels rest

end

def isSound (j : Json) : Bool := j.soundWithin maxDepth

/-! ### Looking into a value -/

def text? : Json → Option String
  | .string text => text
  | _ => none

def count? : Json → Option Nat
  | .number n => n.count?
  | _ => none

def elements? : Json → Option (List Json)
  | .array items => some items
  | _ => none

/-- The value of the last member of that name. -/
def get? (key : String) : Json → Option Json
  | .object members => (members.reverse.find? fun m => m.1 == some key).map (·.2)
  | _ => none

/-- The only value under a key; a repeated key has none. -/
def only? (key : String) (members : List (Option String × Json)) : Option (Option Json) :=
  match members.filter fun m => m.1 == some key with
  | [] => some none
  | [(_, value)] => some (some value)
  | _ => none

/-- The fields of a record, given as an object in any order or as an array in this order. Unknown
members are passed over, and a known one must not be repeated. An array may leave out fields at its
end as long as `least` remain. -/
def fields? (names : List String) (least : Nat) : Json → Option (List (Option Json))
  | .object members =>
    if members.all (·.1.isSome) then names.mapM fun name => only? name members else none
  | .array items =>
    if least ≤ items.length && items.length ≤ names.length then
      some (items.map some ++ List.replicate (names.length - items.length) none)
    else none
  | _ => none

/-- A value that says what it is: the text of its `kind`, and what is left without it. -/
def tagged? (j : Json) : Option (String × Json) :=
  if j.isSound then
    match j with
    | .object members => do
      let kind ← (← only? "kind" members) >>= text?
      return (kind, .object (members.filter fun m => m.1 != some "kind"))
    | .array (first :: rest) => do
      let kind ← first.text?
      return (kind, .array rest)
    | _ => none
  else none

def required? (field : Option Json) : Option String := field >>= text?

/-- A field that may be absent or null. -/
def optional? : Option Json → Option (Option String)
  | none => some none
  | some .null => some none
  | some value => value.text?.map some

end Json

end Entitlement
