import Entitlement.HostName
import Entitlement.SocketAddress
import Entitlement.Text.Percent

/-!
# Hosts of URLs

The host of a URL: an address in brackets, a name, or for the schemes of the web a host name that is
checked and may turn out to be an address of four numbers.
-/

namespace Entitlement

inductive UrlFault where
  | noScheme
  | emptyHost
  | hostName
  | hostCharacter
  | fourNumbers
  | eightGroups
  | port
deriving DecidableEq, Repr, Inhabited

def UrlFault.message : UrlFault → String
  | noScheme => "relative URL without a base"
  | emptyHost => "empty host"
  | hostName => "invalid international domain name"
  | hostCharacter => "invalid domain character"
  | fourNumbers => "invalid IPv4 address"
  | eightGroups => "invalid IPv6 address"
  | port => "invalid port number"

namespace Url

/-! ### Addresses of four numbers -/

/-- A number in one of three radices: sixteen behind `0x`, eight behind another zero, or ten. -/
def part? : List Char → Option Nat
  | [] => none
  | '0' :: 'x' :: digits => Text.number? 16 digits
  | '0' :: c :: digits => Text.number? 8 (c :: digits)
  | digits => Text.number? 10 digits

/-- The parts between dots, without an empty one at the end. -/
def parts (name : List Char) : List (List Char) :=
  let all := name.splitOn '.'
  if all.getLast? = some [] then all.dropLast else all

/-- A name whose last part is a number can only be an address. -/
def endsInNumber (name : List Char) : Bool :=
  match (parts name).getLast? with
  | none => false
  | some last => (!last.isEmpty && last.all Char.isDigit) || (part? last).isSome

/-- At most four numbers. The last one stands for all octets that are left, each of the others for
one. -/
def isFourNumbers (name : List Char) : Bool :=
  match (parts name).mapM part? with
  | none => false
  | some numbers =>
    let octets := numbers.dropLast
    !(4 < numbers.length) && octets.all (· < 256) &&
      numbers.getLast?.any (· < Nat.pow 256 (4 - octets.length))

/-! ### Any host -/

/-- The characters that no host has; tabs and line ends are gone before it is read. -/
def isForbiddenInHost (c : Char) : Bool :=
  c == '\x00' || " #/:<>?@[\\]^|".toList.contains c

def checkBrackets (text : List Char) : Except UrlFault Unit :=
  match SocketAddress.eightGroups text with
  | some (_, [']']) => .ok ()
  | _ => .error .eightGroups

/-- The host of a URL of the web. Escapes in it are undone first. -/
def webHost (text : List Char) : Except UrlFault (List Char) := do
  match text with
  | '[' :: address =>
    checkBrackets address
    return text
  | _ =>
    match HostName.ofBytes? (Text.escapedBytes text) with
    | none => throw .hostName
    | some name =>
      if name.isEmpty then throw .emptyHost
      if endsInNumber name && !isFourNumbers name then throw .fourNumbers
      return name

def plainHost (text : List Char) : Except UrlFault (List Char) := do
  match text with
  | '[' :: address =>
    checkBrackets address
    return text
  | _ => if text.any isForbiddenInHost then throw .hostCharacter else return text

end Url

end Entitlement
