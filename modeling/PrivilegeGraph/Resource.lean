import PrivilegeGraph.Identity

/-!
# Resources

A listed resource with its place in the resource tree.  Users also carry a
profile.
-/

namespace PrivilegeGraph

/-- Whether an account can be used. -/
inductive AccountStatus
  | enabled
  | disabled
  deriving DecidableEq, Repr

/-- Details of a user. -/
structure UserProfile where
  attributes : List (String × String)
  login : String
  status : AccountStatus
  deriving DecidableEq, Repr

/-- A resource as it is listed. -/
structure Resource where
  id : ResourceId
  displayName : String
  parent : Option ResourceId
  /-- The kinds of resources that can be listed under this one. -/
  childKinds : List Kind
  profile : Option UserProfile
  deriving DecidableEq, Repr

namespace Resource

/-- A resource that is no user. -/
def plain
    (identity : Identity)
    (displayName : String)
    (parent : Option ResourceId)
    (childKinds : List Kind) :
    Resource :=
  ⟨identity.resourceId, displayName, parent, childKinds, none⟩

/-- The profile of a user; other resources have none. -/
def profileOf? : Identity → Option UserProfile
  | .user account =>
      some {
        attributes :=
          [("user", account.name), ("host", account.host),
            ("user_id", (Identity.user account).id)]
        login := account.text
        status := .enabled }
  | _ => none

/-- An account under its server. -/
def ofAccount
    (identity : Identity)
    (server : ResourceId) :
    Resource :=
  { plain identity identity.body (some server) [] with
    profile := profileOf? identity }

end Resource

end PrivilegeGraph
