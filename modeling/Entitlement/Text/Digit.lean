/-!
# Digits

What characters are worth as digits. After the nine the letters go on, capitals and small letters
alike.
-/

namespace Entitlement.Text

/-- The value of a digit in that radix, which is at most thirty-six. -/
def digitValue? (radix : Nat) (c : Char) : Option Nat :=
  let value :=
    if c.isDigit then c.toNat - '0'.toNat
    else if c.isAlpha then c.toLower.toNat - 'a'.toNat + 10
    else radix
  if value < radix then some value else none

def isDigitOf (radix : Nat) (c : Char) : Bool := (digitValue? radix c).isSome

def number? (radix : Nat) (digits : List Char) : Option Nat :=
  digits.foldlM (fun n c => (digitValue? radix c).map (radix * n + ·)) 0

end Entitlement.Text
