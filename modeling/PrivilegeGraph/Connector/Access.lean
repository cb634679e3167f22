import PrivilegeGraph.Connector
import PrivilegeGraph.Entitlement
import PrivilegeGraph.Administration
import PrivilegeGraph.Password
import PrivilegeGraph.Reconciliation

/-!
# Access through a connector

What can be granted on a resource, what a resource holds, and how that is
changed; creating and deleting accounts.
-/

namespace PrivilegeGraph.Connector

/-- The entitlements on the resource with an id. -/
def entitlements
    (connector : Connector)
    (id : String) :
    Operation (List Entitlement) := do
  let resource ← checked (Identity.parse id)
  return Entitlement.allFor connector.generation resource

/-- How a connector reads grants. -/
def reconciliation (connector : Connector) : Reconciliation :=
  ⟨connector.settings, connector.generation, connector.serverIdentity⟩

/-- The grants of the account with an id. -/
def accountGrants
    (connector : Connector)
    (id : String) :
    Operation (List Grant) := do
  let principal ← checked (Identity.parse id)
  during (.readGrants principal)
    (connector.reconciliation.grantsHeldBy principal)

/-- The grants of the resource with an id, listed as being of a kind.  Only
users and roles hold any. -/
def grants
    (connector : Connector)
    (kind : Kind)
    (id : String) :
    Operation (List Grant) :=
  match kind with
  | .user | .role => connector.accountGrants id
  | _ => return []

/-- Give an entitlement to a principal, both by id. -/
def grant
    (connector : Connector)
    (principalId entitlementId : String) :
    Operation Unit :=
  during (.grant principalId entitlementId)
    (Administration.grant connector.generation principalId entitlementId)

/-- Take back a grant by id. -/
def revoke
    (connector : Connector)
    (grantId : String) :
    Operation Unit :=
  during (.revoke grantId) (Administration.revoke connector.generation grantId)

/-- The name for a new account in a profile, trimmed. -/
def usernameOf (profile : List (String × String)) : Except Error String :=
  match (profile.lookup "username").map Text.trimmed with
  | some name => if name = "" then .error .missingUsername else .ok name
  | none => .error .missingUsername

/-- A new account and its password. -/
structure CreatedAccount where
  resource : Resource
  password : String
  deriving DecidableEq, Repr

/-- Create the account that a profile names on the configured host, with a
password made from the draws. -/
def createAccount
    (connector : Connector)
    (profile : List (String × String))
    (request : Password.Request)
    (draws : Password.Draws) :
    Operation CreatedAccount := do
  let name ← checked (usernameOf profile)
  let account : Account := ⟨name, connector.settings.accountHost⟩
  let password ← checked (Password.generate request draws)
  during (.createUser account) (Administration.createUser account password)
  let created :=
    Resource.ofAccount (.user account) connector.serverIdentity.resourceId
  return ⟨created, password⟩

/-- The account of a user's id. -/
def userAccount (id : String) : Except Error Account := do
  match ← Identity.parseOfKind .user id with
  | .user account => return account
  | other => throw (.unsupportedKind other.kind.name)

/-- Delete the user with an id. -/
def deleteAccount (id : String) : Operation Unit := do
  let account ← checked (userAccount id)
  during (.deleteUser account) (Administration.dropUser account)

end PrivilegeGraph.Connector
