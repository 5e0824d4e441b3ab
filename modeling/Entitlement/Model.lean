import Entitlement.Text.Blank

/-!
# The policy model

The model behind the matcher, as a text in sections and as the parts that it is read into. Requests
and policies have four fields, a role assignment three. A grant applies where its role is assigned,
so the matcher leaves the domain of the grant out.
-/

namespace Entitlement

/-- One definition of the model under its heading. -/
structure ModelEntry where
  heading : String
  key : String
  value : String
deriving DecidableEq, Repr, Inhabited

def policyModel : List ModelEntry :=
  [⟨"request_definition", "r", "sub, dom, obj, act"⟩,
   ⟨"policy_definition", "p", "sub, dom, obj, act"⟩,
   ⟨"role_definition", "g", "_, _, _"⟩,
   ⟨"policy_effect", "e", "some(where (p.eft == allow))"⟩,
   ⟨"matchers", "m", "g(r.sub, p.sub, r.dom) && r.obj == p.obj && r.act == p.act"⟩]

namespace ModelEntry

def text (e : ModelEntry) : String :=
  "\n[" ++ e.heading ++ "]\n" ++ e.key ++ " = " ++ e.value ++ "\n"

def definesFields (e : ModelEntry) : Bool := e.key == "r" || e.key == "p"

def tokens (e : ModelEntry) : List String :=
  if e.definesFields then
    (e.value.splitOn ",").map fun field => e.key ++ "_" ++ Text.trim field
  else []

/-- The definition as the matcher is evaluated: a field of a request or of a policy is one name. -/
def evaluated (e : ModelEntry) : String :=
  if e.definesFields then e.value else (e.value.replace "r." "r_").replace "p." "p_"

end ModelEntry

def modelText : String := String.join (policyModel.map ModelEntry.text)

end Entitlement
