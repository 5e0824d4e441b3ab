import Entitlement.Url.Host
import Entitlement.Url.Query

/-!
# URLs

A text as a URL: a scheme and what follows it, of which escapes stay as they are written. The
schemes of the web take backslashes for slashes and need a host; a file may have one; any other
scheme takes an authority after two slashes only, and without any slash its path is not divided.
-/

namespace Entitlement

structure Url where
  user : List Char := []
  password : Option (List Char) := none
  -- Empty without a host.
  host : List Char := []
  -- Only when it is not the one of the scheme.
  port : Option Nat := none
  path : List Char := []
  query : Option (List Char) := none
deriving DecidableEq, Repr, Inhabited

namespace Url

/-! ### Schemes -/

inductive Scheme where
  -- A scheme of the web, with the port that its hosts have.
  | web (port : Nat)
  | file
  | other
deriving DecidableEq, Repr, Inhabited

namespace Scheme

def ofName (name : String) : Scheme :=
  match name with
  | "http" | "ws" => .web 80
  | "https" | "wss" => .web 443
  | "ftp" => .web 21
  | "file" => .file
  | _ => .other

def port? : Scheme → Option Nat
  | web port => some port
  | file | other => none

def isSlash (s : Scheme) (c : Char) : Bool := c == '/' || (c == '\\' && s ≠ .other)

def isEnd (s : Scheme) (c : Char) : Bool := s.isSlash c || c == '?' || c == '#'

end Scheme

/-- Without control characters and blanks at the ends, and without line ends and tabs. -/
def clean (text : String) : List Char :=
  let outer (c : Char) : Bool := !(0x20 < c.toNat)
  let front := (text.toList.dropWhile outer).reverse.dropWhile outer
  front.reverse.filter fun c => !(c == '\t' || c == '\n' || c == '\r')

def isSchemeCharacter (c : Char) : Bool :=
  c.isAlphanum || c == '+' || c == '-' || c == '.'

def readScheme (cs : List Char) : Except UrlFault (Scheme × List Char) :=
  let name := cs.takeWhile isSchemeCharacter
  match name.head?.any Char.isAlpha, cs.drop name.length with
  | true, ':' :: rest => .ok (.ofName (String.ofList (name.map Char.toLower)), rest)
  | _, _ => .error .noScheme

/-! ### Authorities -/

/-- The user and the password before the last sign that closes them. -/
def readUser (s : Scheme) (cs : List Char) :
    Except UrlFault ((List Char × Option (List Char)) × List Char) :=
  let authority := cs.takeWhile (!s.isEnd ·)
  if authority.contains '@' then
    let host := (authority.reverse.takeWhile (· ≠ '@')).reverse
    let written := authority.take (authority.length - host.length - 1)
    let rest := cs.drop (written.length + 1)
    -- Where nothing stands before that sign, a host has to follow it, unless the text ends there.
    if written.isEmpty then
      if rest.head?.any s.isEnd then .error .emptyHost else .ok (([], none), rest)
    else
      let user := written.takeWhile (· ≠ ':')
      let password := written.drop (user.length + 1)
      .ok ((user, if password.isEmpty then none else some password), rest)
  else .ok (([], none), cs)

/-- The characters of a host, up to the end of the authority or to a colon outside of brackets. -/
def takeHost (s : Scheme) (bracketed : Bool) : List Char → List Char
  | [] => []
  | c :: rest =>
    if s.isEnd c || (c == ':' && !bracketed) then []
    else c :: takeHost s (c == '[' || (bracketed && c != ']')) rest

def readHost (s : Scheme) (cs : List Char) : Except UrlFault (List Char × List Char) := do
  let text := takeHost s false cs
  let rest := cs.drop text.length
  if s = .other then
    let host ← plainHost text
    if host.isEmpty && rest.head? = some ':' then throw .emptyHost
    return (host, rest)
  else if text.isEmpty then throw .emptyHost
  else return (← webHost text, rest)

def readPort (s : Scheme) (cs : List Char) : Except UrlFault (Option Nat × List Char) :=
  match cs with
  | ':' :: rest =>
    let digits := rest.takeWhile Char.isDigit
    let rest := rest.drop digits.length
    let number := Nat.ofDigitChars 10 digits 0
    -- A backslash ends the digits in any URL.
    if 0xFFFF < number || rest.head?.any fun c => !("/\\?#".toList.contains c) then .error .port
    else .ok (if digits.isEmpty || some number = s.port? then none else some number, rest)
  | _ => .ok (none, cs)

def readAuthority (s : Scheme) (cs : List Char) : Except UrlFault (Url × List Char) := do
  let ((user, password), rest) ← readUser s cs
  let (host, rest) ← readHost s rest
  let (port, rest) ← readPort s rest
  if host.isEmpty && (!user.isEmpty || password.isSome) then throw .emptyHost
  return ({ user, password, host, port }, rest)

/-- The letter of a drive, with a colon or a bar. -/
def isDrive : List Char → Bool
  | [letter, mark] => letter.isAlpha && (mark == ':' || mark == '|')
  | _ => false

/-- The host of a file, which has neither a user nor a port. -/
def readFileHost (cs : List Char) : Except UrlFault (List Char × List Char) := do
  let text := cs.takeWhile (!Scheme.file.isEnd ·)
  if isDrive text then return ([], cs)
  let rest := cs.drop text.length
  if text.isEmpty then return ([], rest)
  let host ← webHost text
  -- The machine itself is no host.
  return (if host = "localhost".toList then [] else host, rest)

/-! ### Paths -/

/-- The names of the segments that lead nowhere and one level up, with dots that may be escaped. -/
def dots (segment : List Char) : String :=
  ((String.ofList segment).replace "%2e" ".").replace "%2E" "."

/-- The segments above the last one; that of a drive stays. -/
def leave (above : List (List Char)) : List (List Char) :=
  if above.head?.any isDrive then above else above.drop 1

/-- Follows the segments of a path; `above` are those so far, the last one first. -/
def resolve : List (List Char) → List (List Char) → List (List Char)
  | above, [] => above.reverse
  | above, segment :: rest =>
    let isDirectory := if rest.isEmpty then [[]] else []
    match dots segment with
    | "." => resolve (isDirectory ++ above) rest
    | ".." => resolve (isDirectory ++ leave above) rest
    | _ => resolve (segment :: above) rest

def readPath (s : Scheme) (text : List Char) : List Char :=
  let text := text.map fun c => if s.isSlash c then '/' else c
  match text with
  | [] => []
  | '/' :: segments => '/' :: ['/'].intercalate (resolve [] (segments.splitOn '/'))
  | _ => '/' :: ['/'].intercalate (resolve [] (text.splitOn '/'))

/-! ### Reading -/

def finish (u : Url) (divide : List Char → List Char) (cs : List Char) : Url :=
  let path := cs.takeWhile fun c => !(c == '?' || c == '#')
  -- A fragment is passed over.
  let query := match cs.drop path.length with
    | '?' :: query => some (query.takeWhile (· ≠ '#'))
    | _ => none
  { u with path := divide path, query }

def readRest (s : Scheme) (cs : List Char) : Except UrlFault Url := do
  match s, cs with
  | .web _, _ =>
    let (u, rest) ← readAuthority s (cs.dropWhile s.isSlash)
    return u.finish (readPath s) rest
  | .file, a :: b :: others =>
    if s.isSlash a && s.isSlash b then
      let (host, rest) ← readFileHost others
      return { host : Url }.finish (readPath s) rest
    else return ({} : Url).finish (readPath s) cs
  | .file, _ => return ({} : Url).finish (readPath s) cs
  | .other, '/' :: '/' :: authority =>
    let (u, rest) ← readAuthority s authority
    return u.finish (readPath s) rest
  | .other, '/' :: _ => return ({} : Url).finish (readPath s) cs
  | .other, _ => return ({} : Url).finish id cs

def ofText (text : String) : Except UrlFault Url := do
  let (s, rest) ← readScheme (clean text)
  readRest s rest

def parameters (u : Url) : List (String × String) := readPairs (u.query.getD [])

end Url

end Entitlement
