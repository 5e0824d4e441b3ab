import Entitlement.Text.Digit

/-!
# Percent escapes

Texts in which a percent sign and two hexadecimal digits stand for a byte.
-/

namespace Entitlement.Text

/-- The bytes of a text. A percent sign without two digits behind it stands for itself. -/
def escapedBytes : List Char → List UInt8
  | [] => []
  | '%' :: high :: low :: rest =>
    match digitValue? 16 high, digitValue? 16 low with
    | some h, some l => (16 * h + l).toUInt8 :: escapedBytes rest
    | _, _ => String.utf8EncodeChar '%' ++ escapedBytes (high :: low :: rest)
  | c :: rest => String.utf8EncodeChar c ++ escapedBytes rest
termination_by cs => cs.length

end Entitlement.Text
