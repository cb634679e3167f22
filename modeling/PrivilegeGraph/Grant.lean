import PrivilegeGraph.Right

/-!
# Grants

A grant is the observed fact that a principal holds an entitlement.  Its id is
`grant:{entitlement id}:{principal id}`, seven parts between colons.
-/

namespace PrivilegeGraph

/-- A principal's hold on an entitlement. -/
structure Grant where
  id : String
  entitlementId : String
  resource : ResourceId
  principal : ResourceId
  deriving DecidableEq, Repr

namespace Grant

/-- The grant of an entitlement to a principal. -/
def make
    (entitlementId : String)
    (resource principal : ResourceId) :
    Grant where
  id := "grant:" ++ entitlementId ++ ":" ++ principal.id
  entitlementId := entitlementId
  resource := resource
  principal := principal

/-- The grant of a right to a principal. -/
def ofRight
    (right : Right)
    (principal : Identity) :
    Grant :=
  make right.id right.resource.resourceId principal.resourceId

/-- Read the id of a grant as its right and its principal; the right is read
first. -/
def partsOfId (id : String) : Except Error (Right × Identity) :=
  match Text.pieces ':' id with
  | ["grant", "entitlement", privilege, kind, body, principalKind,
      principalBody] => do
      let right ←
        Right.ofId ("entitlement:" ++ privilege ++ ":" ++ kind ++ ":" ++ body)
      let principal ←
        Identity.principalOfId (principalKind ++ ":" ++ principalBody)
      return (right, principal)
  | _ => .error (.malformedCompositeId id)

end Grant

end PrivilegeGraph
