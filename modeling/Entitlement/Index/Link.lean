import Entitlement.Index

/-!
# Links

The matcher's view of a role: a name is linked to a role within a domain when they are equal, or
when the role is found by a search along the domain's assignments, from user to role. The search
goes breadth first and is cut off: its depth counter grows whenever the queue runs empty at a step,
and the search ends once the counter reaches the limit. A plain chain is therefore followed for
nine assignments, and side branches let the search go further.
-/

namespace Entitlement

/-- The model that the matcher evaluates has this bound on its role hierarchy. -/
def hierarchyLimit : Nat := 10

namespace Index

/-- The roles that one assignment in the domain leads to from `name`, the newest first. -/
def rolesAbove (i : Index) (domain name : String) : List String :=
  ((i.assignments.filter fun a => a.domain == domain && a.user == name && a.role != name).map
    (·.role)).reverse

end Index

/-- A search under way: the names still to visit, every name met, and the depth counter. -/
structure LinkSearch where
  queue : List String
  met : List String
  depth : Nat
deriving DecidableEq, Repr

namespace LinkSearch

def start (name : String) : LinkSearch := ⟨[name], [name], 0⟩

def meet (s : LinkSearch) (names : List String) : LinkSearch :=
  names.foldl
    (fun s name =>
      if s.met.contains name then s
      else { s with queue := s.queue ++ [name], met := name :: s.met })
    s

def visit (above : String → List String) (s : LinkSearch) : Option (String × LinkSearch) :=
  match s.queue with
  | [] => none
  | name :: rest =>
    let depth := if rest.isEmpty then s.depth + 1 else s.depth
    some (name, { s with queue := rest, depth }.meet (above name))

/-- Whether the target is visited before the queue or the depth runs out. -/
def finds (above : String → List String) (target : String) : Nat → LinkSearch → Bool
  | 0, _ => false
  | visits + 1, s =>
    if s.depth < hierarchyLimit then
      match s.visit above with
      | none => false
      | some (name, s) => name == target || finds above target visits s
    else false

end LinkSearch

namespace Index

def linked (i : Index) (name role domain : String) : Bool :=
  name == role ||
    -- Each name is queued once, so as many visits as there are names suffice.
    LinkSearch.finds (i.rolesAbove domain) role (i.assignments.length + 1) (.start name)

/-- The grants that the matcher tries. -/
def matcherGrants (i : Index) : List Grant :=
  -- Without any grant, the matcher tries one of empty texts.
  if i.grants.isEmpty then [⟨"", "", "", ""⟩] else i.grants

/-- The matcher's decision. -/
def permits (i : Index) (subject domain object action : String) : Bool :=
  i.matcherGrants.any fun g =>
    -- A grant's own domain plays no part.
    i.linked subject g.role domain && object == g.object && action == g.action

end Index

end Entitlement
