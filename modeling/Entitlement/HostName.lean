import Entitlement.HostName.Characters
import Entitlement.HostName.Joiner
import Entitlement.HostName.Mark
import Entitlement.HostName.Punycode
import Entitlement.Text.Utf8

/-!
# Host names

The names of hosts in a network: labels with dots between them, in any script. A label is checked
as it is read, so one that is given by its form in ASCII is decoded first.
-/

namespace Entitlement.HostName

def isForbidden (c : Char) : Bool :=
  !(0x20 < c.toNat) || c == '\x7f' || "#%/:<>?@[\\]^|".toList.contains c

def encodedMark : List Char := ['x', 'n', '-', '-']

def isAscii (c : Char) : Bool := c.toNat < 0x80

/-- The characters of a label. There is a form in ASCII only for a label with others, and it stands
for characters that could be written as well. -/
def decode? (label : List Char) : Option (List Char) :=
  if encodedMark.isPrefixOf label then do
    if !label.all isAscii then none
    let characters ← Punycode.decode? (label.drop encodedMark.length)
    if characters.all isAscii || !characters.all isSettled then none
    return characters
  else some label

/-- No mark comes first, and joiners stand where they may. -/
def isWellFormed (label : List Char) : Bool :=
  !label.head?.any isMark && joinsRightly [] label

/-- A name in small letters, as far as it is in ASCII. -/
def ofBytes? (bytes : List UInt8) : Option (List Char) := do
  let characters ← (Text.readUtf8 0 bytes).toOption
  if characters.any disallowed.contains then none
  let name := characters.flatMap formOf
  if name.any isForbidden then none
  let labels ← (name.splitOn '.').mapM decode?
  if !labels.all isWellFormed then none
  if (labels.any fun label => label.any needsDirection) && !labels.all isOriented then none
  return name

end Entitlement.HostName
