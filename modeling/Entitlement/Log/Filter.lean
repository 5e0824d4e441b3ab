import Entitlement.Event
import Entitlement.Log.Pattern
import Entitlement.Text.Blank
import Entitlement.Text.Letter
import Entitlement.Text.Numeral

/-!
# Log filters

A filter says which events a log shows. It is a list of directives, separated by commas. A directive
names a target, fields that an event must have, and a threshold, each of which may be left out. An
event is judged by the most specific directive that applies to it: the one with the longest target,
among those the one with the most fields, and among those the one whose fields come last in order.
-/

namespace Entitlement

/-- The least severe events that are shown, if any are. -/
abbrev Threshold := Option Severity

structure Directive where
  -- The beginning of the targets that it applies to; without one, all of them.
  target : Option String := none
  fields : List String := []
  -- It is about events within a span, or with a certain value. No event is.
  narrow : Bool := false
  threshold : Threshold
deriving DecidableEq, Repr, Inhabited

namespace Directive

/-! ### Reading -/

def severities : List Severity := [.error, .warn, .info, .debug, .trace]

/-- The name of a severity or its number. -/
def threshold? (text : String) : Option Threshold :=
  let digits := if text.startsWith "+" then (text.drop 1).toString else text
  if !digits.isEmpty && digits.toList.all Char.isDigit then
    match Nat.ofDigitChars 10 digits.toList 0 with
    -- Nothing is as severe as zero.
    | 0 => some none
    | n => (severities.find? fun s => s.rank == n).map some
  else
    match Text.lowerAscii text with
    | "off" => some none
    | name => (severities.find? fun s => s.name == name).map some

/-- The threshold behind an equality sign; without one, everything is shown. -/
def readThreshold (text : String) : Option Threshold :=
  if text.isEmpty then some (some .trace) else threshold? text

def isComparable (value : List Char) : Bool := Text.isNumeral value || isPattern value

/-- The part of a directive that is being read, and the octet at which its content begins. -/
inductive Part where
  | beginning
  | word
  | span (start : Nat)
  | field (start : Nat)
  | fieldEnd
  | bracketEnd
  | threshold (start : Nat)
deriving DecidableEq, Repr, Inhabited

/-- The text between two octets, neither of which may lie within a character. -/
def between? (start stop : Nat) (text : String) : Option String :=
  String.fromUTF8? ⟨((text.toUTF8.toList.take stop).drop start).toArray⟩

/-- A field, and perhaps a value up to the next equality sign. -/
def withField (d : Directive) (text : String) : Option Directive :=
  let field := text.toList
  let name := field.takeWhile (· ≠ '=')
  let value := ((field.drop (name.length + 1)).takeWhile (· ≠ '='))
  if field.isEmpty || !isComparable value then none
  else
    some { d with
      fields := [String.ofList name], narrow := d.narrow || name.length < field.length }

def beginsTarget (c : Char) : Bool := "-:_".toList.contains c || Text.isLetterOrNumeral c

/-- Reads the character at the octet `place`. What ends there is cut out of `text`. -/
def advance (text : String) (d : Directive) (part : Part) (place : Nat) (c : Char) :
    Option (Directive × Part) := do
  match part, c with
  | .beginning, '[' => return (d, .span (place + 1))
  | .beginning, _ => if beginsTarget c then return (d, .word) else none
  | .word, '=' =>
    let target ← between? 0 place text
    return ({ d with target := some target }, .threshold (place + 1))
  | .word, '[' =>
    let target ← between? 0 place text
    return ({ d with target := some target }, .span (place + 1))
  | .span start, ']' =>
    let _ ← between? start place text
    return ({ d with narrow := true }, .bracketEnd)
  | .span start, '\x7b' =>
    let span ← between? start place text
    return ({ d with narrow := !span.isEmpty }, .field (place + 1))
  | .field start, '\x7d' =>
    let field ← between? start place text
    return (← d.withField field, .fieldEnd)
  | .fieldEnd, ']' => return (d, .bracketEnd)
  | .bracketEnd, '=' => return (d, .threshold (place + 1))
  | .fieldEnd, _ | .bracketEnd, _ => none
  | _, _ => return (d, part)

def advanceAll (text : String) (d : Directive) (part : Part) (place : Nat) :
    List Char → Option (Directive × Part)
  | [] => some (d, part)
  | c :: rest => do
    let (d, part) ← advance text d part place c
    advanceAll text d part (place + c.utf8Size) rest

/-- A word alone is a threshold if it can be read as one, and a target of everything otherwise. -/
def ofText? (text : String) : Option Directive := do
  -- White space at both ends is not read, and octets are counted without it; but it is there where
  -- something is cut out, which then begins too early.
  let (d, part) ←
    advanceAll text { threshold := some .trace } .beginning 0 (Text.trim text).toList
  match part with
  | .word =>
    match threshold? text with
    | some threshold => return { d with threshold }
    | none => return { d with target := some text }
  | .threshold start =>
    let written ← between? start text.utf8ByteSize text
    return { d with threshold := ← readThreshold written }
  | .bracketEnd => return d
  | .beginning | .span _ | .field _ | .fieldEnd => none

/-! ### Judging -/

/-- The target begins as required, and every field is there. -/
def applies (d : Directive) (e : Event) : Bool :=
  !d.narrow && d.target.all (fun target => e.target.startsWith target) &&
    d.fields.all fun name => name == "message" || (e.fields.map (·.1)).contains name

/-- Directives with larger values are more specific. -/
def weight (d : Directive) : Nat × Nat :=
  ((d.target.map fun t => t.utf8ByteSize + 1).getD 0, d.fields.length)

/-- Whether `d` is to be asked before `e`, when `e` was written earlier. -/
def precedes (d e : Directive) : Bool :=
  if d.weight = e.weight then !(d.fields < e.fields)
  else e.weight.1 < d.weight.1 || (e.weight.1 == d.weight.1 && e.weight.2 < d.weight.2)

end Directive

structure LogFilter where
  directives : List Directive
deriving DecidableEq, Repr, Inhabited

namespace LogFilter

def upTo (s : Severity) : LogFilter := ⟨[{ threshold := some s }]⟩

def ofText? (text : String) : Option LogFilter := do
  -- Empty directives are passed over.
  let parts := ((text.toList.splitOn ',').map String.ofList).filter fun part => !part.isEmpty
  let directives ← parts.mapM Directive.ofText?
  -- Without any directive only errors are shown.
  return if directives.isEmpty then upTo .error else ⟨directives⟩

/-- The filter that a variable asks for. Where it is not set or cannot be read, information is shown
and what is more severe. -/
def ofVariable (text : Option String) : LogFilter :=
  (text.bind ofText?).getD (upTo .info)

def judge? (e : Event) (f : LogFilter) : Option Directive :=
  (f.directives.filter (·.applies e)).foldl (fun best d =>
    match best with
    | none => some d
    | some b => if d.precedes b then some d else best) none

def shows (e : Event) (f : LogFilter) : Bool :=
  match (f.judge? e).bind (·.threshold) with
  | some threshold => e.severity.reaches threshold
  | none => false

end LogFilter

end Entitlement
