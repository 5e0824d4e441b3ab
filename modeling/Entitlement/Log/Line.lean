import Entitlement.Event
import Entitlement.Text.Quoted

/-!
# Log lines

An event as one line of a log, without its time: the severity, the target, the message and the
fields.
-/

namespace Entitlement

def FieldValue.text : FieldValue → String
  | plain text => text
  | quoted text => Text.quoted text
  | count n => toString n
  | flag b => toString b

namespace Event

def fieldsText (e : Event) : String :=
  String.join (e.fields.map fun (name, value) => " " ++ name ++ "=" ++ value.text)

def line (e : Event) : String :=
  e.severity.name.toUpper ++ " " ++ e.target ++ ": " ++ e.message ++ e.fieldsText

end Event

end Entitlement
