import Entitlement.Text.Ranges

/-!
# Blank text

Which characters count as white space, which texts count as blank, and how text is trimmed.
White space is the Unicode property `White_Space`: twenty-five characters, among them no-break
spaces and line separators, and not the zero-width ones.
-/

namespace Entitlement.Text

/-- The ranges of code points with the property `White_Space`, ends included, ascending. -/
def whiteSpaceRanges : Ranges :=
  [(0x0009, 0x000D), (0x0020, 0x0020), (0x0085, 0x0085), (0x00A0, 0x00A0), (0x1680, 0x1680),
   (0x2000, 0x200A), (0x2028, 0x2029), (0x202F, 0x202F), (0x205F, 0x205F), (0x3000, 0x3000)]

def isWhiteSpace (c : Char) : Bool := whiteSpaceRanges.contains c

def isBlank (text : String) : Bool :=
  text.toList.all isWhiteSpace

def trim (text : String) : String :=
  let front := text.toList.dropWhile isWhiteSpace
  String.ofList (front.reverse.dropWhile isWhiteSpace).reverse

def lowerAscii (text : String) : String :=
  String.ofList (text.toList.map Char.toLower)

@[simp] theorem isBlank_empty : isBlank "" = true := rfl

end Entitlement.Text
