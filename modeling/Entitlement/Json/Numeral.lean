/-!
# Numerals

A JSON number as it is written: sign, whole digits, fraction and exponent. A reader that takes
numbers for what they are worth keeps the leading digits that fit in sixty-four bits, scales them
by a power of ten in double precision, and refuses a numeral whose value would be infinite.
-/

namespace Entitlement.Json

structure Numeral where
  negative : Bool := false
  whole : List Char
  fraction : Option (List Char) := none
  -- The sign of the exponent and its digits.
  exponent : Option (Bool × List Char) := none
deriving DecidableEq, Repr, Inhabited

def ofDigits (digits : List Char) : Nat := Nat.ofDigitChars 10 digits 0

/-- The largest count that a field can hold. -/
def maxCount : Nat := 0xFFFFFFFFFFFFFFFF

namespace Numeral

def ofNat (n : Nat) : Numeral := { whole := Nat.toDigits 10 n }

/-- A count is written in digits alone. -/
def count? (n : Numeral) : Option Nat :=
  if n.negative || n.fraction.isSome || n.exponent.isSome then none
  else
    let value := ofDigits n.whole
    if value ≤ maxCount then some value else none

/-- Rounds to fifty-three binary digits, a half to the even neighbour. -/
def toDouble (n : Nat) : Nat :=
  if n < Nat.pow 2 53 then n
  else
    let unit := Nat.pow 2 (n.log2 - 52)
    let low := n / unit
    let rest := n % unit
    let up := unit < 2 * rest || (unit = 2 * rest && low % 2 = 1)
    (if up then low + 1 else low) * unit

/-- From here on a value is rounded to infinity. -/
def infinite (n : Nat) : Bool := Nat.pow 2 1024 - Nat.pow 2 970 ≤ n

/-- Leading digits that fit, and the number of digits after them. -/
def leading : Nat → List Char → Nat × Nat
  | kept, [] => (kept, 0)
  | kept, c :: rest =>
    let longer := Nat.ofDigitChars 10 [c] kept
    if longer ≤ maxCount then leading longer rest else (kept, rest.length + 1)

/-- The digits that are kept, and the power of ten that they are scaled by. -/
def scaled (n : Numeral) : Nat × Int :=
  let (whole, dropped) := leading 0 n.whole
  let digits := n.fraction.getD []
  let (kept, cut) := leading whole digits
  let power : Int := dropped - (digits.length - cut : Nat)
  match n.exponent with
  | none => (kept, power)
  | some (true, exponent) => (kept, power - ofDigits exponent)
  | some (false, exponent) => (kept, power + ofDigits exponent)

def isFinite (n : Numeral) : Bool :=
  let (kept, power) := n.scaled
  kept = 0 || (power ≤ 308 && !infinite (toDouble kept * toDouble (Nat.pow 10 power.toNat)))

end Numeral

end Entitlement.Json
