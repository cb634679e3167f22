import PrivilegeGraph.Identity

/-!
# Errors

Each way in which an operation can fail is a constructor; its wording is in one
function.  A failure may carry the activity during which it arose.  Its message
then begins with that activity, and a fault of the store is named twice: in the
error's own words and once more as its source.
-/

namespace PrivilegeGraph

/-- Why the store could not answer. -/
inductive Fault
  | closedPool
  | refused (reason : String)
  | missingRow
  | undecodable (column : String)
  deriving DecidableEq, Repr

/-- The words of a fault.  A refusal carries the server's general error number
and state. -/
def Fault.message : Fault → String
  | .closedPool => "attempted to acquire a connection on a closed pool"
  | .refused reason => "error returned from database: 1105 (HY000): " ++ reason
  | .missingRow => "no row came back where one was due"
  | .undecodable column => "column " ++ column ++ " could not be decoded"

/-- Why no password was made. -/
inductive PasswordFlaw
  | noCredential
  | exhausted (attempts : Nat)
  deriving DecidableEq, Repr

/-- The words of a password flaw. -/
def PasswordFlaw.message : PasswordFlaw → String
  | .noCredential => "unsupported credential option"
  | .exhausted attempts =>
      "failed to generate a valid password after " ++ attempts.repr ++
        " attempts"

/-- What is wrong with the configured settings. -/
inductive SettingsFlaw
  | unclearFlag (key value : String)
  | noConnectionString
  | badExpansion (entry : String)
  deriving DecidableEq, Repr

/-- The words of a settings flaw. -/
def SettingsFlaw.message : SettingsFlaw → String
  | .unclearFlag key value =>
      "expected true or false for " ++ key ++ ", got " ++ value
  | .noConnectionString =>
      "connection_string is missing. " ++
        "Please make sure your credentials file is correct"
  | .badExpansion entry =>
      "expand_columns entries must be db.table, got " ++ entry

/-- The causes of failure. -/
inductive Error
  /-- An id of a resource or account breaks the grammar of ids. -/
  | malformedId (id : String)
  /-- An entitlement, principal or grant id does not have its parts. -/
  | malformedCompositeId (id : String)
  /-- A name may not stand in a statement. -/
  | invalidIdentifier (name : String)
  /-- The privilege does not exist for the kind of resource. -/
  | unsupportedPrivilege (privilege : String) (kind : Kind)
  /-- A resource of this kind cannot take part. -/
  | unsupportedKind (kind : String)
  /-- The store failed. -/
  | storage (fault : Fault)
  /-- No acceptable password was made. -/
  | password (flaw : PasswordFlaw)
  /-- An account or routine that is referred to does not exist. -/
  | unresolved (reference : String)
  /-- A page token is no decimal offset. -/
  | invalidPageToken (token : String)
  /-- The server's version is not supported. -/
  | unsupportedServer (version : String)
  /-- The settings are not valid. -/
  | invalidSettings (flaw : SettingsFlaw)
  /-- An account profile lacks the name. -/
  | missingUsername
  deriving DecidableEq, Repr

namespace Error

/-- The words of an error. -/
def message : Error → String
  | malformedId id => "malformed id: " ++ id
  | malformedCompositeId id => "malformed entitlement id: " ++ id
  | invalidIdentifier name => "invalid identifier: " ++ name
  | unsupportedPrivilege privilege kind =>
      "unsupported privilege " ++ privilege ++ " for " ++ kind.name
  | unsupportedKind kind => "unsupported resource kind: " ++ kind
  | storage fault => "storage error: " ++ fault.message
  | password flaw => "credential generation failed: " ++ flaw.message
  | unresolved reference => "unable to resolve " ++ reference
  | invalidPageToken token => "invalid page token: " ++ token
  | unsupportedServer version =>
      version ++ " is not a supported version of MySQL"
  | invalidSettings flaw => "invalid config: " ++ flaw.message
  | missingUsername => "missing username in account profile"

/-- The words of an error followed by those of its source, if it has one. -/
def chain : Error → List String
  | storage fault => [(storage fault).message, fault.message]
  | error => [error.message]

end Error

/-- What was being done when an error arose. -/
inductive Activity
  | readSettings
  | connect
  | readServerInfo
  | readGrants (principal : Identity)
  | grant (principalId entitlementId : String)
  | revoke (grantId : String)
  | listDatabases
  | listTables (schema : String)
  | listRoutines (schema : String)
  | listColumns (schema owner : String)
  | listAccounts (kind : Kind)
  | createUser (account : Account)
  | deleteUser (account : Account)
  deriving DecidableEq, Repr

/-- The words of an activity that failed. -/
def Activity.message : Activity → String
  | readSettings => "invalid mysql connector config"
  | connect => "failed to connect to mysql"
  | readServerInfo => "failed to read server info"
  | readGrants principal => "failed to get grants for " ++ principal.id
  | grant principalId entitlementId =>
      "failed to grant " ++ entitlementId ++ " to " ++ principalId
  | revoke grantId => "failed to revoke " ++ grantId
  | listDatabases => "failed to get databases"
  | listTables schema => "failed to get tables in " ++ schema
  | listRoutines schema => "failed to get routines in " ++ schema
  | listColumns schema owner =>
      "failed to get columns of " ++ schema ++ "." ++ owner
  | listAccounts kind => "failed to get " ++ kind.name ++ "s"
  | createUser account => "failed to create user " ++ account.text
  | deleteUser account => "failed to delete user " ++ account.text

/-- An error, together with the activity that met it. -/
structure Failure where
  activity : Option Activity
  cause : Error
  deriving DecidableEq, Repr

/-- The whole message of a failure, outermost part first. -/
def Failure.message (failure : Failure) : String :=
  ": ".intercalate
    (failure.activity.toList.map Activity.message ++ failure.cause.chain)

namespace Identity

/-- Read an id, or report it as malformed. -/
def parse (id : String) : Except Error Identity :=
  match ofId? id with
  | some identity => .ok identity
  | none => .error (.malformedId id)

/-- Read the id of a resource of a given kind. -/
def parseOfKind
    (kind : Kind)
    (id : String) :
    Except Error Identity := do
  let identity ← parse id
  if identity.kind = kind then
    return identity
  else
    throw (.unsupportedKind identity.kind.name)

end Identity

end PrivilegeGraph
