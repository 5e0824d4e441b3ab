/-!
# Parts of texts
-/

namespace Entitlement.Text

/-- The characters `part` stand in a row somewhere in the list. -/
def occursIn (part : List Char) : List Char → Bool
  | [] => part.isEmpty
  | c :: rest => part.isPrefixOf (c :: rest) || occursIn part rest

def includes (text part : String) : Bool := occursIn part.toList text.toList

end Entitlement.Text
