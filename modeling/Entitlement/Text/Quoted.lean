import Entitlement.Text.Visible

/-!
# Quoted text

A text between quotation marks, in which every character can be seen: those that cannot are written
by their names or by their numbers.
-/

namespace Entitlement.Text

def numbered (c : Char) : String :=
  "\\u\x7b" ++ String.ofList (Nat.toDigits 16 c.toNat) ++ "\x7d"

def quotedChar (c : Char) : String :=
  match c with
  | '\x00' => "\\0"
  | '\t' => "\\t"
  | '\n' => "\\n"
  | '\r' => "\\r"
  | '\x22' => "\\\x22"
  | '\\' => "\\\\"
  | _ => if isVisible c then c.toString else numbered c

def quoted (text : String) : String := "\x22" ++ String.join (text.toList.map quotedChar) ++ "\x22"

end Entitlement.Text
