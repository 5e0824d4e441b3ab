import Entitlement.Text.Digit

/-!
# Sets of characters

A set of characters as ranges of code points, which a table gives as text: hexadecimal numbers in
ascending order between blanks, with a hyphen between the ends of a range.
-/

namespace Entitlement.Text

abbrev Ranges := List (Nat × Nat)

def entries (text : String) : List (List Char) :=
  ((text.toList.map fun c => if c == '\n' then ' ' else c).splitOn ' ').filter (!·.isEmpty)

namespace Ranges

/-- A number, or two with a hyphen between them. -/
def range? (entry : List Char) : Option (Nat × Nat) :=
  match (entry.splitOn '-').mapM (number? 16) with
  | some [n] => some (n, n)
  | some [low, high] => some (low, high)
  | _ => none

def ofText (text : String) : Ranges := (entries text).filterMap range?

def contains (r : Ranges) (c : Char) : Bool :=
  r.any fun (low, high) => low ≤ c.toNat && c.toNat ≤ high

end Ranges

end Entitlement.Text
