import Entitlement.PermissionKey
import Entitlement.Replica
import Entitlement.Text.Blank

/-!
# The authority

The operations that callers use. Required fields are checked before anything else happens. Grants
are looked up by role alone, so a role means the same in every domain; assignments count only in
their own domain. Assigning a role to several users is all or nothing: when one assignment fails,
those made before it are taken back, the newest first.
-/

namespace Entitlement

def required (field value : String) : Except Failure Unit :=
  if Text.isBlank value then .error (.missing field) else .ok ()

def requiredEach (field : String) : List String → Except Failure Unit
  | [] => .ok ()
  | value :: rest => do
    required field value
    requiredEach field rest

def checkedAssignment (user role domain : String) : Except Failure Assignment := do
  required "user" user
  required "role" role
  required "domain" domain
  return ⟨user, role, domain⟩

/-- One grant for each action, in the order of first occurrence. -/
def checkedGrants (role domain object : String) (actions : List String) :
    Except Failure (List Grant) := do
  required "role" role
  required "domain" domain
  required "object" object
  if actions.isEmpty then throw (.missing "action")
  requiredEach "action" actions
  return (distinct actions).map fun action => ⟨role, domain, object, action⟩

def checkedUsers (users : List String) (role domain : String) : Except Failure Unit := do
  required "role" role
  required "domain" domain
  if users.isEmpty then throw (.missing "users")
  requiredEach "user" users

def Grant.permission (g : Grant) : String := permissionKey g.object g.action

namespace Authority

variable (me : Profile)

def roles (user domain : String) : Attempt (List String) := do
  required "user" user
  required "domain" domain
  Call.look fun index => index.rolesOf user domain

/-- The permissions of each role in turn. -/
def permissionsOfRoles : List String → Call (List String)
  | [] => return []
  | role :: rest => do
    -- Every role is looked up in the index of its moment.
    let grants ← Call.look fun index => index.grantsOf role none
    let others ← permissionsOfRoles rest
    return grants.map Grant.permission ++ others

def permissions (user domain : String) : Attempt (List String) := do
  let held ← roles user domain
  -- What two roles give is listed twice.
  permissionsOfRoles held

def domains (user : String) : Attempt (List String) := do
  required "user" user
  let found ← Call.look fun index => index.domainsOf user
  let others := SortedBy.arrange nameKey (found.filter (· ≠ me.defaultDomain))
  -- The default domain comes last, whether or not a role is held there.
  return others ++ [me.defaultDomain]

def holders (role domain : String) : Attempt (List String) := do
  required "role" role
  required "domain" domain
  Call.look fun index => index.holdersOf role domain

def allows (user domain object action : String) : Attempt Bool := do
  required "object" object
  required "action" action
  let granted ← permissions user domain
  return granted.contains (permissionKey object action)

def commitGrants (change : Change) : List Grant → Attempt Unit
  | [] => return
  | g :: rest => do
    Replica.commit me.id change (.grant g)
    commitGrants change rest

def grant (role domain object : String) (actions : List String) : Attempt Unit := do
  let grants ← checkedGrants role domain object actions
  commitGrants me .insert grants
  Call.note (.granted role domain object grants.length)

def revoke (role domain object : String) (actions : List String) : Attempt Unit := do
  let grants ← checkedGrants role domain object actions
  commitGrants me .delete grants
  Call.note (.revoked role domain object grants.length)

def assign (user role domain : String) : Attempt Unit := do
  let assignment ← checkedAssignment user role domain
  Replica.commit me.id .insert (.assignment assignment)
  Call.note (.assigned user role domain)

def unassign (user role domain : String) : Attempt Unit := do
  let assignment ← checkedAssignment user role domain
  Replica.commit me.id .delete (.assignment assignment)
  Call.note (.unassigned user role domain)

/-- Takes assignments back in the given order. -/
def undo : List Assignment → Call Unit
  | [] => return
  | a :: rest => do
    match ← (Replica.commit me.id .delete (.assignment a)).run with
    | .ok () => undo rest
    -- It stays, and the others are taken back all the same.
    | .error cause =>
      Call.note (.undoFailed a cause)
      undo rest

/-- Assigns the role to each user who does not hold it yet; `made` lists the assignments of this
call, the newest first. -/
def assignEach (role domain : String) : List String → List Assignment → Attempt Unit
  | [], made => Call.note (.batchDone role domain made.length)
  | user :: rest, made => do
    let held ← Call.look fun index => index.rolesOf user domain
    if role ∈ held then
      assignEach role domain rest made
    else
      match ← (Replica.commit me.id .insert (.assignment ⟨user, role, domain⟩)).outcome with
      | .ok () => assignEach role domain rest (⟨user, role, domain⟩ :: made)
      | .error cause =>
        -- An assignment that was stored although it failed is taken back too.
        let stored := if cause.writePersisted then ⟨user, role, domain⟩ :: made else made
        Call.note (.batchFailed user role domain cause stored.length)
        undo me stored
        Attempt.fail cause

/-- Assigns the role to all users or, as far as taking back succeeds, to none. -/
def assignAll (users : List String) (role domain : String) : Attempt Unit := do
  checkedUsers users role domain
  assignEach me role domain users []

/-- Registers the namespace and makes its creator the administrator. -/
def createNamespace (creator : String) (record : Namespace) : Attempt Namespace := do
  required "creator" creator
  required "namespace" record.name
  let created ← Attempt.ofStore (Call.perform (.register { record with createdBy := creator }))
  match ← (assign me creator me.adminRole created.name).outcome with
  | .ok () =>
    Call.note (.namespaceCreated created.name creator)
    return created
  -- The registration stands.
  | .error cause =>
    Call.note (.namespaceOrphaned created.name creator me.adminRole cause)
    Attempt.fail (.orphaned created.name cause)

def permissionsIn (user : String) : List Namespace → Attempt (List NamespacePermissions)
  | [] => return []
  | record :: rest => do
    let granted ← permissions user record.name
    let others ← permissionsIn user rest
    return ⟨record.name, granted⟩ :: others

def namespacePermissions (user : String) (w : Window) : Attempt (Page NamespacePermissions) := do
  required "user" user
  let page ← Attempt.ofStore (Call.perform (.listing w))
  let items ← permissionsIn user page.items
  return ⟨items, page.total⟩

end Authority

end Entitlement
