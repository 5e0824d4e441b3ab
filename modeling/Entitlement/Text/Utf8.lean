/-!
# Text from bytes

Bytes as characters in UTF-8. Bytes that are no text can be refused, with the place of the first
fault, or read all the same, with a replacement character for each faulty sequence.
-/

namespace Entitlement.Text

structure Utf8Fault where
  -- How many bytes before it are a text.
  index : Nat
  -- How many bytes are at fault; none where the text ends within a character.
  length : Option Nat
deriving DecidableEq, Repr, Inhabited

def Utf8Fault.message (f : Utf8Fault) : String :=
  let place := " from index " ++ toString f.index
  match f.length with
  | some length => "invalid utf-8 sequence of " ++ toString length ++ " bytes" ++ place
  | none => "incomplete utf-8 byte sequence" ++ place

/-- The ranges of the bytes that have to follow a first byte. -/
def followers? (first : Nat) : Option (List (Nat × Nat)) :=
  let any := (0x80, 0xBF)
  if first < 0x80 then some []
  else if first < 0xC2 then none
  else if first < 0xE0 then some [any]
  else if first = 0xE0 then some [(0xA0, 0xBF), any]
  else if first = 0xED then some [(0x80, 0x9F), any]
  else if first < 0xF0 then some [any, any]
  else if first = 0xF0 then some [(0x90, 0xBF), any, any]
  else if first < 0xF4 then some [any, any, any]
  else if first = 0xF4 then some [(0x80, 0x8F), any, any]
  else none

/-- How many bytes in front lie in the ranges, each in its own. -/
def matching : List (Nat × Nat) → List UInt8 → Nat
  | (low, high) :: ranges, b :: rest =>
    if low ≤ b.toNat && b.toNat ≤ high then matching ranges rest + 1 else 0
  | _, _ => 0

inductive Utf8Part where
  -- A character that takes `further` bytes after the first one.
  | char (c : Char) (further : Nat)
  -- A fault that takes `further` bytes after the first one.
  | wrong (further : Nat)
  -- The beginning of a character, and nothing else.
  | cut
deriving DecidableEq, Repr, Inhabited

def charOf (first : Nat) (followers : List UInt8) : Char :=
  let lead := match followers.length with
    | 0 => first
    | 1 => first % 0x20
    | 2 => first % 0x10
    | _ => first % 0x08
  Char.ofNat (followers.foldl (fun n b => 0x40 * n + b.toNat % 0x40) lead)

def partAt (first : UInt8) (rest : List UInt8) : Utf8Part :=
  match followers? first.toNat with
  | none => .wrong 0
  | some ranges =>
    let found := matching ranges rest
    if found = ranges.length then .char (charOf first.toNat (rest.take found)) found
    else if found = rest.length then .cut
    else .wrong found

/-- The characters of bytes, with their numbers of bytes before `index`. -/
def readUtf8 (index : Nat) : List UInt8 → Except Utf8Fault (List Char)
  | [] => .ok []
  | first :: rest =>
    match partAt first rest with
    | .char c further => (readUtf8 (index + further + 1) (rest.drop further)).map (c :: ·)
    | .wrong further => .error ⟨index, some (further + 1)⟩
    | .cut => .error ⟨index, none⟩
termination_by bytes => bytes.length
decreasing_by simp only [List.length_cons, List.length_drop]; omega

def ofUtf8 (bytes : List UInt8) : Except Utf8Fault String :=
  (readUtf8 0 bytes).map String.ofList

/-- The characters of bytes, with U+FFFD for what is none. -/
def readLossy : List UInt8 → List Char
  | [] => []
  | first :: rest =>
    match partAt first rest with
    | .char c further => c :: readLossy (rest.drop further)
    | .wrong further => '\ufffd' :: readLossy (rest.drop further)
    | .cut => ['\ufffd']
termination_by bytes => bytes.length
decreasing_by all_goals simp only [List.length_cons, List.length_drop]; omega

end Entitlement.Text
