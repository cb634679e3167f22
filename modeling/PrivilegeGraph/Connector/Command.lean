import PrivilegeGraph.Connector.Access
import PrivilegeGraph.Connector.Listing

/-!
# Commands

Everything that can be asked of a connector, as data.  Commands that read never
change the server, and each of the others runs one statement at most.
-/

namespace PrivilegeGraph.Connector

/-- A request to a connector. -/
inductive Command
  | check
  | describe
  | list (kind : Kind) (parent : Option ResourceId) (request : PageRequest)
  | entitlements (kind : Kind) (id : String)
  | grants (kind : Kind) (id : String)
  | grant (principalId entitlementId : String)
  | revoke (grantId : String)
  | createAccount
      (profile : List (String × String))
      (request : Password.Request)
      (draws : Password.Draws)
  | deleteAccount (id : String)

namespace Command

/-- What a command returns when it succeeds. -/
def Reply : Command → Type
  | check => Bool
  | describe => Metadata
  | list _ _ _ => Page Resource
  | entitlements _ _ => List Entitlement
  | grants _ _ => List Grant
  | grant _ _ => Unit
  | revoke _ => Unit
  | createAccount _ _ _ => CreatedAccount
  | deleteAccount _ => Unit

end Command

/-- Carry out a command. -/
def perform
    (connector : Connector) :
    (command : Command) → Operation command.Reply
  | .check => answers
  | .describe => return connector.metadata
  | .list kind parent request => connector.list kind parent request
  | .entitlements _ id => connector.entitlements id
  | .grants kind id => connector.grants kind id
  | .grant principalId entitlementId =>
      connector.grant principalId entitlementId
  | .revoke grantId => connector.revoke grantId
  | .createAccount profile request draws =>
      connector.createAccount profile request draws
  | .deleteAccount id => deleteAccount id

end PrivilegeGraph.Connector
