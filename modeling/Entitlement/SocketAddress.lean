import Entitlement.Text.Digit

/-!
# Socket addresses

An internet address and a port, as text: four decimal octets and a port, or eight hexadecimal
groups in brackets and a port. In print the longest run of at least two zero groups is left out, the
first one of equally long runs.
-/

namespace Entitlement

inductive SocketAddress where
  | v4 (octets : List Nat) (port : Nat)
  | v6 (groups : List Nat) (scope port : Nat)
deriving DecidableEq, Repr, Inhabited

namespace SocketAddress

/-! ### Reading -/

/-- A reader takes something away from the front of a text, or fails. -/
abbrev Reader (α : Type) := List Char → Option (α × List Char)

def char (c : Char) : Reader Unit
  | [] => none
  | x :: rest => if x = c then some ((), rest) else none

/-- All digits at the front; their number must not exceed `largest`. -/
def number (radix largest : Nat) : Reader Nat := fun cs =>
  let digits := cs.takeWhile (Text.isDigitOf radix)
  match Text.number? radix digits with
  | some value =>
    if digits.isEmpty || largest < value then none else some (value, cs.drop digits.length)
  | none => none

/-- At most three digits without a needless zero. -/
def octet : Reader Nat := fun cs =>
  let digits := cs.takeWhile Char.isDigit
  if 3 < digits.length || (1 < digits.length && digits.head? = some '0') then none
  else number 10 255 cs

def group : Reader Nat := fun cs =>
  if 4 < (cs.takeWhile (Text.isDigitOf 16)).length then none
  else number 16 0xFFFF cs

def octets : Reader (List Nat) := fun cs => do
  let (a, cs) ← octet cs
  let (b, cs) ← octet (← char '.' cs).2
  let (c, cs) ← octet (← char '.' cs).2
  let (d, cs) ← octet (← char '.' cs).2
  return ([a, b, c, d], cs)

def groupsOfOctets : List Nat → List Nat
  | [a, b, c, d] => [256 * a + b, 256 * c + d]
  | _ => []

/-- With something in front of it, a part of an address follows a colon. -/
def separated {α : Type} (first : Bool) (part : Reader α) : Reader α := fun cs =>
  if first then part cs else do part (← char ':' cs).2

/-- Groups as many as there are, `room` at most, and whether they end with an address of four
octets, which takes the room of two groups. -/
def groups (first : Bool) : Nat → List Char → (List Nat × Bool) × List Char
  | 0, cs => (([], false), cs)
  | room + 1, cs =>
    match (if 0 < room then separated first octets cs else none) with
    | some (found, cs) => ((groupsOfOctets found, true), cs)
    | none =>
      match separated first group cs with
      | some (g, cs) =>
        let ((others, dotted), cs) := groups false room cs
        ((g :: others, dotted), cs)
      | none => (([], false), cs)

/-- Eight groups, or fewer with two colons for at least one zero group between them. -/
def eightGroups : Reader (List Nat) := fun cs => do
  let ((front, dotted), cs) := groups true 8 cs
  if front.length = 8 then return (front, cs)
  if dotted then none
  let (_, cs) ← char ':' cs
  let (_, cs) ← char ':' cs
  let ((back, _), cs) := groups true (7 - front.length) cs
  return (front ++ List.replicate (8 - front.length - back.length) 0 ++ back, cs)

def port : Reader Nat := fun cs => do number 10 0xFFFF (← char ':' cs).2

def scope (cs : List Char) : Nat × List Char :=
  match (char '%' cs).bind fun (_, cs) => number 10 0xFFFFFFFF cs with
  | some (n, cs) => (n, cs)
  | none => (0, cs)

def readV4 : Reader SocketAddress := fun cs => do
  let (octets, cs) ← octets cs
  let (port, cs) ← port cs
  return (.v4 octets port, cs)

def readV6 : Reader SocketAddress := fun cs => do
  let (groups, cs) ← eightGroups (← char '[' cs).2
  let (scope, cs) := scope cs
  let (port, cs) ← port (← char ']' cs).2
  return (.v6 groups scope port, cs)

def ofText? (text : String) : Option SocketAddress :=
  match readV4 text.toList <|> readV6 text.toList with
  | some (address, []) => some address
  | _ => none

/-! ### Printing -/

def hexText (n : Nat) : String := String.ofList (Nat.toDigits 16 n)

def colons (groups : List Nat) : String := ":".intercalate (groups.map hexText)

def dots (octets : List Nat) : String := ".".intercalate (octets.map toString)

def zeros (groups : List Nat) : Nat := (groups.takeWhile (· == 0)).length

def longestZeros (groups : List Nat) : Nat × Nat :=
  (List.range groups.length).foldl (fun (start, length) i =>
    let here := zeros (groups.drop i)
    if length < here then (i, here) else (start, length)) (0, 0)

def groupsText (groups : List Nat) : String :=
  match groups with
  | [0, 0, 0, 0, 0, 0xFFFF, high, low] =>
    "::ffff:" ++ dots [high / 256, high % 256, low / 256, low % 256]
  | _ =>
    let (start, length) := longestZeros groups
    if length ≤ 1 then colons groups
    else colons (groups.take start) ++ "::" ++ colons (groups.drop (start + length))

def text : SocketAddress → String
  | v4 octets port => dots octets ++ ":" ++ toString port
  | v6 groups scope port =>
    let mark := if scope = 0 then "" else "%" ++ toString scope
    "[" ++ groupsText groups ++ mark ++ "]:" ++ toString port

end SocketAddress

end Entitlement
