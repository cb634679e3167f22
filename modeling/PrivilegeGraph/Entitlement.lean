import PrivilegeGraph.Catalog
import PrivilegeGraph.Right

/-!
# Entitlements

Each catalog entry for a resource is offered as an entitlement.  Its labels
follow the kind of the resource: objects name the privilege and the object,
accounts name what can be done with the account.
-/

namespace PrivilegeGraph

/-- Something that a principal can be granted on a resource. -/
structure Entitlement where
  id : String
  resource : ResourceId
  displayName : String
  description : String
  slug : String
  /-- The kinds of principals that can hold the entitlement. -/
  grantableTo : List Kind
  purpose : Purpose
  deriving DecidableEq, Repr

namespace Entitlement

open Catalog (Entry)

/-- The special entries of accounts. -/
inductive AccountEntry
  | proxy
  | proxyWithOption
  | membership
  | membershipWithOption
  | other
  deriving DecidableEq

/-- Which entry of an account an entry is. -/
def AccountEntry.of (entry : Entry) : AccountEntry :=
  if entry.privilege.id = Privilege.proxyId then
    if entry.withOption then proxyWithOption else proxy
  else if entry.privilege.id = Privilege.roleAssignmentId then
    if entry.withOption then membershipWithOption else membership
  else other

/-- The name of an account's entitlement. -/
def accountDisplayName
    (entry : Entry)
    (body : String) :
    String :=
  match AccountEntry.of entry with
  | .proxyWithOption => "GRANT PROXY " ++ body
  | .membershipWithOption => "GRANT ROLE " ++ body
  | .proxy => Text.uppered entry.displayName ++ " " ++ body
  | .membership => body ++ " Role Member"
  | .other =>
      if entry.withOption then "GRANT " ++ body
      else body ++ " " ++ entry.displayName

/-- The name of an entitlement. -/
def displayNameOf
    (entry : Entry)
    (resource : Identity) :
    String :=
  let privilege := Text.uppered entry.displayName
  match resource with
  | .server _ => privilege ++ " *.*"
  | .database name => privilege ++ " " ++ name ++ ".*"
  | .table _ _ | .routine _ _ => privilege ++ " " ++ resource.body
  | .column _ _ name =>
      privilege ++ " (" ++ name ++ ") Column " ++ resource.body
  | .user _ | .role _ => accountDisplayName entry resource.body

/-- The description of an account's entitlement. -/
def accountDescription
    (entry : Entry)
    (body : String) :
    String :=
  match AccountEntry.of entry with
  | .proxyWithOption =>
      "Allows granting other users the ability to proxy to the " ++ body ++
        " user"
  | .membershipWithOption =>
      "Allows granting other users the ability to use SET ROLE with the " ++
        body ++ " role"
  | .proxy => "Enables proxying to the " ++ body ++ " user"
  | .membership => entry.privilege.description ++ " on the " ++ body ++ " role"
  | .other => entry.privilege.description

/-- The description of an entitlement. -/
def descriptionOf
    (entry : Entry)
    (resource : Identity) :
    String :=
  let base := entry.privilege.description
  match resource with
  | .server _ => base ++ " globally"
  | .database name => base ++ " on the " ++ name ++ " database"
  | .table _ _ => base ++ " on the " ++ resource.body ++ " table"
  | .routine _ _ => base ++ " on the " ++ resource.body ++ " routine"
  | .column schema owner name =>
      base ++ " on the " ++ name ++ " column on the " ++ schema ++ "." ++
        owner ++ " table"
  | .user _ | .role _ => accountDescription entry resource.body

/-- The short label of an entitlement, before it is put in lower case. -/
def labelOf
    (entry : Entry)
    (resource : Identity) :
    String :=
  match resource with
  | .user _ | .role _ =>
      match AccountEntry.of entry with
      | .proxyWithOption => "grant proxy"
      | .membershipWithOption => "grant role"
      | .proxy => "proxy"
      | .membership => "member"
      | .other => entry.displayName
  | _ => entry.displayName

/-- The kinds of principals on a server: users, and roles where there are
any. -/
def principalKinds (generation : Generation) : List Kind :=
  if generation.isModern then [.user, .role] else [.user]

/-- The right that a catalog entry stands for on a resource. -/
def rightOf
    (entry : Entry)
    (resource : Identity) :
    Right :=
  ⟨entry.id, resource⟩

/-- The entitlement of one catalog entry on a resource. -/
def ofEntry
    (generation : Generation)
    (resource : Identity)
    (entry : Entry) :
    Entitlement where
  id := (rightOf entry resource).id
  resource := resource.resourceId
  displayName := displayNameOf entry resource
  description := descriptionOf entry resource
  slug := Text.lowered (labelOf entry resource)
  grantableTo := principalKinds generation
  purpose := entry.privilege.purpose

/-- Every entitlement on a resource, in the order of the catalog. -/
def allFor
    (generation : Generation)
    (resource : Identity) :
    List Entitlement :=
  (Catalog.entries resource.kind generation).map (ofEntry generation resource)

/-- The entitlements on a resource are as many as its catalog entries, in their
order. -/
theorem map_id_allFor
    (generation : Generation)
    (resource : Identity) :
    (allFor generation resource).map Entitlement.id =
      (Catalog.entries resource.kind generation).map
        fun entry => (rightOf entry resource).id := by
  simp [allFor, ofEntry, Function.comp_def]

end Entitlement

end PrivilegeGraph
