import Entitlement.Text.Blank

/-!
# Numerals

Numbers as they are written: a sign, digits with a point among them, and an exponent, of which only
the digits are needed. Infinity and what is no number have names.
-/

namespace Entitlement.Text

def dropSign (cs : List Char) : List Char :=
  match cs with
  | '+' :: rest | '-' :: rest => rest
  | _ => cs

def spanDigits (cs : List Char) : List Char × List Char := cs.span Char.isDigit

def isExponent : List Char → Bool
  | [] => true
  | mark :: rest =>
    let digits := dropSign rest
    (mark == 'e' || mark == 'E') && !digits.isEmpty && digits.all Char.isDigit

/-- Digits, of which some may stand behind a point, and an exponent. -/
def isDecimal (cs : List Char) : Bool :=
  let (whole, rest) := spanDigits cs
  let (part, rest) := match rest with
    | '.' :: rest => spanDigits rest
    | _ => ([], rest)
  !(whole.isEmpty && part.isEmpty) && isExponent rest

def isNumeral (cs : List Char) : Bool :=
  let unsigned := dropSign cs
  ["inf", "infinity", "nan"].contains (lowerAscii (String.ofList unsigned)) || isDecimal unsigned

end Entitlement.Text
