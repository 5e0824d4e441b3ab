import Entitlement.Text.Digit

/-!
# Labels in ASCII

A label with other characters has a form in ASCII: its ASCII characters, a hyphen, and numbers that
tell which characters have to be put in and where. A number is written in digits of changing weight,
the lowest first, and ends with the first digit below its threshold.
-/

namespace Entitlement.HostName.Punycode

/-- The letters come first, and then the digits. -/
def digit? (c : Char) : Option Nat :=
  if c.isAlpha then some (c.toLower.toNat - 'a'.toNat)
  else if c.isDigit then some (c.toNat - '0'.toNat + 26)
  else none

/-- The threshold of the digit at `place`, which counts up by thirty-six. -/
def threshold (place bias : Nat) : Nat := max 1 (min 26 (place - bias))

/-- Reads a number; `weight` is what its next digit counts. -/
def number? (bias : Nat) : List Char → Nat → Nat → Nat → Option (Nat × List Char)
  | [], _, _, _ => none
  | c :: rest, place, weight, n => do
    let digit ← digit? c
    let n := n + digit * weight
    if digit < threshold place bias then return (n, rest)
    number? bias rest (place + 36) (weight * (36 - threshold place bias)) n

/-- Divides until the rest is small, and counts how often by thirty-six. -/
def shrink : Nat → Nat → Nat → Nat × Nat
  | 0, n, k => (n, k)
  | steps + 1, n, k => if 455 < n then shrink steps (n / 35) (k + 36) else (n, k)

def adapt (n length : Nat) (first : Bool) : Nat :=
  let n := if first then n / 700 else n / 2
  let n := n + n / length
  let (n, k) := shrink n n 0
  k + 36 * n / (n + 38)

/-- Puts characters in; each number counts the places and the characters that are passed over. -/
def fill (first : Bool) : Nat → List Char → List Char → Nat → Nat → Nat → Option (List Char)
  | _, label, [], _, _, _ => some label
  | 0, _, _, _, _, _ => none
  | steps + 1, label, digits, next, place, bias => do
    let (n, rest) ← number? bias digits 36 1 0
    let length := label.length + 1
    let next := next + (place + n) / length
    let place := (place + n) % length
    if !next.isValidChar then none
    let label := label.take place ++ Char.ofNat next :: label.drop place
    fill false steps label rest next (place + 1) (adapt n length first)

def decode? (text : List Char) : Option (List Char) :=
  let digits := (text.reverse.takeWhile (· ≠ '-')).reverse
  let plain := text.take (text.length - digits.length - 1)
  fill true (digits.length + 1) plain digits 0x80 0 72

end Entitlement.HostName.Punycode
