import Entitlement.Channel
import Entitlement.Fact
import Entitlement.Json.Read
import Entitlement.Json.Write
import Entitlement.Namespace

/-!
# Written forms

How the values that leave the program are written as JSON, and which JSON is read back as such a
value. Records are objects with fixed members in a fixed order. A fact or a pattern of either
relation carries its relation in the member `kind`.
-/

namespace Entitlement

class Wire (α : Type) where
  toJson : α → Json
  ofJson? : Json → Option α

namespace Wire

variable {α : Type} [Wire α]

def encode (value : α) : String := (toJson value).render

def decode (text : String) : Option α := Json.parse? text >>= ofJson?

end Wire

instance : Wire Grant where
  toJson g :=
    Json.record [("role", Json.text g.role), ("domain", Json.text g.domain),
      ("object", Json.text g.object), ("action", Json.text g.action)]
  ofJson? j := do
    match ← j.fields? ["role", "domain", "object", "action"] 4 with
    | [role, domain, object, action] =>
      return ⟨← Json.required? role, ← Json.required? domain, ← Json.required? object,
        ← Json.required? action⟩
    | _ => none

instance : Wire Assignment where
  toJson a :=
    Json.record [("user", Json.text a.user), ("role", Json.text a.role),
      ("domain", Json.text a.domain)]
  ofJson? j := do
    match ← j.fields? ["user", "role", "domain"] 3 with
    | [user, role, domain] =>
      return ⟨← Json.required? user, ← Json.required? role, ← Json.required? domain⟩
    | _ => none

instance : Wire GrantPattern where
  toJson p :=
    Json.record [("role", Json.orNull Json.text p.role), ("domain", Json.orNull Json.text p.domain),
      ("object", Json.orNull Json.text p.object), ("action", Json.orNull Json.text p.action)]
  ofJson? j := do
    match ← j.fields? ["role", "domain", "object", "action"] 4 with
    | [role, domain, object, action] =>
      return ⟨← Json.optional? role, ← Json.optional? domain, ← Json.optional? object,
        ← Json.optional? action⟩
    | _ => none

instance : Wire AssignmentPattern where
  toJson p :=
    Json.record [("user", Json.orNull Json.text p.user), ("role", Json.orNull Json.text p.role),
      ("domain", Json.orNull Json.text p.domain)]
  ofJson? j := do
    match ← j.fields? ["user", "role", "domain"] 3 with
    | [user, role, domain] =>
      return ⟨← Json.optional? user, ← Json.optional? role, ← Json.optional? domain⟩
    | _ => none

def Json.withKind (kind : String) : Json → Json
  | .object members => .object ((some "kind", text kind) :: members)
  | other => other

instance : Wire Fact where
  toJson
    | .grant g => (Wire.toJson g).withKind "grant"
    | .assignment a => (Wire.toJson a).withKind "assignment"
  ofJson? j := do
    let (kind, body) ← j.tagged?
    if kind = "grant" then (Wire.ofJson? body).map .grant
    else if kind = "assignment" then (Wire.ofJson? body).map .assignment
    else none

instance : Wire FactPattern where
  toJson
    | .grants p => (Wire.toJson p).withKind "grant"
    | .assignments p => (Wire.toJson p).withKind "assignment"
  ofJson? j := do
    let (kind, body) ← j.tagged?
    if kind = "grant" then (Wire.ofJson? body).map .grants
    else if kind = "assignment" then (Wire.ofJson? body).map .assignments
    else none

/-- The creator may be left out and is then empty. -/
instance : Wire Namespace where
  toJson n :=
    Json.record [("namespace", Json.text n.name), ("display_name", Json.text n.displayName),
      ("created_by", Json.text n.createdBy)]
  ofJson? j := do
    match ← j.fields? ["namespace", "display_name", "created_by"] 2 with
    | [name, displayName, createdBy] =>
      let creator ← match createdBy with
        | none => some ""
        | some value => value.text?
      return ⟨← Json.required? name, ← Json.required? displayName, creator⟩
    | _ => none

instance : Wire Window where
  toJson w := Json.record [("offset", Json.nat w.offset), ("limit", Json.nat w.limit)]
  ofJson? j := do
    match ← j.fields? ["offset", "limit"] 2 with
    | [offset, limit] => return ⟨← offset >>= Json.count?, ← limit >>= Json.count?⟩
    | _ => none

instance : Wire NamespacePermissions where
  toJson n :=
    Json.record [("namespace", Json.text n.name), ("permissions", Json.texts n.permissions)]
  ofJson? j := do
    match ← j.fields? ["namespace", "permissions"] 2 with
    | [name, permissions] =>
      let listed ← permissions >>= Json.elements?
      return ⟨← Json.required? name, ← listed.mapM Json.text?⟩
    | _ => none

instance {α : Type} [Wire α] : Wire (Page α) where
  toJson p :=
    Json.record [("items", .array (p.items.map Wire.toJson)), ("total", Json.nat p.total)]
  ofJson? j := do
    match ← j.fields? ["items", "total"] 2 with
    | [items, total] =>
      let listed ← items >>= Json.elements?
      return ⟨← listed.mapM Wire.ofJson?, ← total >>= Json.count?⟩
    | _ => none

instance : Wire Signal where
  toJson s := Json.record [("origin", Json.text s.origin)]
  ofJson? j := do
    match ← j.fields? ["origin"] 1 with
    | [origin] => return ⟨← Json.required? origin⟩
    | _ => none

namespace Signal

def encode (s : Signal) : String := Wire.encode s

/-- A text that cannot be read still tells of a change; its origin is unknown. -/
def decode (text : String) : Signal := (Wire.decode text).getD ⟨""⟩

end Signal

end Entitlement
