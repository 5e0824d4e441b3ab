import Entitlement.SortedBy
import Entitlement.Failure

/-!
# Namespaces

The records of namespaces, kept in ascending order of their names, and pages of them.
-/

namespace Entitlement

structure Namespace where
  name : String
  displayName : String
  createdBy : String := ""
deriving DecidableEq, Repr, Inhabited

/-- A stretch of a listing: how many items to pass over, and how many to show at most. -/
structure Window where
  offset : Nat := 0
  limit : Nat := 50
deriving DecidableEq, Repr, Inhabited

structure Page (α : Type) where
  items : List α
  total : Nat
deriving DecidableEq, Repr, Inhabited

structure NamespacePermissions where
  name : String
  permissions : List String
deriving DecidableEq, Repr, Inhabited

def Window.page {α : Type} (w : Window) (all : List α) : Page α :=
  ⟨(all.drop w.offset).take w.limit, all.length⟩

abbrev Registry := SortedBy fun n : Namespace => [n.name]

namespace Registry

/-- A name that is taken stays with its record. -/
def register (record : Namespace) (r : Registry) : Except StoreFailure Namespace × Registry :=
  match r.find? [record.name] with
  | some _ => (.error (.conflict "namespace exists"), r)
  | none => (.ok record, r.insert record)

def page (w : Window) (r : Registry) : Page Namespace := w.page r.toList

end Registry

end Entitlement
